import Mathlib
import BluetoothStack.Lib.KeyedList
import BluetoothStack.Lib.Machine

namespace BluetoothStack.Common

open Machine (transduce)

-- An element of node_list_ with its identity: an iterator into the list, or
-- the V* Find returns, is the identity of the node it points to.
structure Node (K V : Type) where
  id : Nat
  key : K
  value : V

def Node.entry {K V : Type} (n : Node K V) : Sigma fun _ : K => Nat := ⟨n.key,n.id⟩

def Node.pair {K V : Type} (n : Node K V) : K × V := (n.key,n.value)

@[simp] theorem Node.pair_fst {K V : Type} (n : Node K V) : n.pair.1 = n.key := rfl

@[simp] theorem Node.pair_snd {K V : Type} (n : Node K V) : n.pair.2 = n.value := rfl

theorem Node.keys_map_entry {K V : Type} (l : List (Node K V)) : (l.map Node.entry).keys = l.map Node.key := by
  simp [List.keys,Function.comp_def,Node.entry]

-- LegacyLruCache<K, V>; nextId is the identity the next node is allocated
-- with.
structure LegacyLruCache (K V : Type) where
  nodeList : List (Node K V)
  capacity : Nat
  lruMap : AList fun _ : K => Nat
  nextId : Nat

variable {K V : Type} [DecidableEq K]

namespace LegacyLruCache

-- The constructor; a capacity of 0 is LOG(FATAL).
def new (capacity : Nat) : Option (LegacyLruCache K V) := if capacity = 0 then none else some ⟨[],capacity,∅,0⟩

def clear (c : LegacyLruCache K V) : LegacyLruCache K V := {c with nodeList := [],lruMap := ∅}

-- node_list_.splice(node_list_.begin(), node_list_, it)
def spliceFront (nodeList : List (Node K V)) (it : Nat) : List (Node K V) :=
  match nodeList.find? (·.id = it) with
  | none => nodeList
  | some node => node :: nodeList.eraseP (·.id = it)

def find (c : LegacyLruCache K V) (key : K) : LegacyLruCache K V × Option Nat :=
  match c.lruMap.lookup key with
  | none => (c,none)
  | some it => ({c with nodeList := spliceFront c.nodeList it},some it)

-- *p for a V* into the list.
def deref (c : LegacyLruCache K V) (p : Nat) : Option V := (c.nodeList.find? (·.id = p)).map (·.value)

def get (c : LegacyLruCache K V) (key : K) : LegacyLruCache K V × Option V :=
  ((c.find key).1,(c.find key).2.bind (c.find key).1.deref)

def hasKey (c : LegacyLruCache K V) (key : K) : LegacyLruCache K V × Bool := ((c.find key).1,(c.find key).2.isSome)

-- lru_map_.erase(node_list_.back().first); ret = node_list_.back();
-- node_list_.pop_back();
def popBack (c : LegacyLruCache K V) : LegacyLruCache K V × Option (K × V) :=
  match c.nodeList.getLast? with
  | none => (c,none)
  | some back => ({c with nodeList := c.nodeList.dropLast,lruMap := c.lruMap.erase back.key},some (back.key,back.value))

-- unordered_map::emplace inserts nothing for a key it holds.
def emplace (m : AList fun _ : K => Nat) (key : K) (it : Nat) : AList fun _ : K => Nat :=
  if key ∈ m then m else m.insert key it

def put (c : LegacyLruCache K V) (key : K) (value : V) : LegacyLruCache K V × Option (K × V) :=
  match (c.find key).2 with
  | some p =>
    ({(c.find key).1 with nodeList := (c.find key).1.nodeList.map fun n => if n.id = p then {n with value} else n},none)
  | none =>
    let evicted := if c.lruMap.entries.length = c.capacity then c.popBack else (c,none)
    (⟨⟨evicted.1.nextId,key,value⟩ :: evicted.1.nodeList,evicted.1.capacity,
        emplace evicted.1.lruMap key evicted.1.nextId,evicted.1.nextId + 1⟩,evicted.2)

def remove (c : LegacyLruCache K V) (key : K) : LegacyLruCache K V × Bool :=
  match c.lruMap.lookup key with
  | none => (c,false)
  | some it => ({c with nodeList := c.nodeList.eraseP (·.id = it),lruMap := c.lruMap.erase key},true)

def size (c : LegacyLruCache K V) : Nat := c.lruMap.entries.length

end LegacyLruCache

inductive LruCall (K V : Type) where
  | clear
  | find (key : K)
  | get (key : K)
  | hasKey (key : K)
  | put (key : K) (value : V)
  | remove (key : K)
  | size

-- What a call gives back: the value behind Find's pointer or Get's output
-- (none for nullptr and false), a flag, the node Put evicted, a size.
inductive LruReply (K V : Type) where
  | done
  | found (value : Option V)
  | flag (result : Bool)
  | evicted (node : Option (K × V))
  | count (n : Nat)
deriving DecidableEq

def LegacyLruCache.call (c : LegacyLruCache K V) : LruCall K V → Option (LegacyLruCache K V × LruReply K V)
  | .clear => some (c.clear,.done)
  | .find key => some ((c.find key).1,.found ((c.find key).2.bind (c.find key).1.deref))
  | .get key => some ((c.get key).1,.found (c.get key).2)
  | .hasKey key => some ((c.hasKey key).1,.flag (c.hasKey key).2)
  | .put key value => some ((c.put key value).1,.evicted (c.put key value).2)
  | .remove key => some ((c.remove key).1,.flag (c.remove key).2)
  | .size => some (c,.count c.size)

section Reference

-- The reference LRU: the pairs from the most to the least recently used.
structure Lru (K V : Type) where
  entries : List (K × V)
  capacity : Nat

namespace Lru

def touch (q : Lru K V) (key : K) : Lru K V × Option V :=
  match q.entries.find? (·.1 = key) with
  | none => (q,none)
  | some entry => (⟨entry :: q.entries.eraseP (·.1 = key),q.capacity⟩,some entry.2)

def put (q : Lru K V) (key : K) (value : V) : Lru K V × Option (K × V) :=
  if (q.entries.find? (·.1 = key)).isSome then (⟨(key,value) :: q.entries.eraseP (·.1 = key),q.capacity⟩,none)
  else if q.entries.length = q.capacity then (⟨(key,value) :: q.entries.dropLast,q.capacity⟩,q.entries.getLast?)
  else (⟨(key,value) :: q.entries,q.capacity⟩,none)

def remove (q : Lru K V) (key : K) : Lru K V × Bool :=
  if (q.entries.find? (·.1 = key)).isSome then (⟨q.entries.eraseP (·.1 = key),q.capacity⟩,true) else (q,false)

def call (q : Lru K V) : LruCall K V → Option (Lru K V × LruReply K V)
  | .clear => some (⟨[],q.capacity⟩,.done)
  | .find key | .get key => some ((q.touch key).1,.found (q.touch key).2)
  | .hasKey key => some ((q.touch key).1,.flag (q.touch key).2.isSome)
  | .put key value => some ((q.put key value).1,.evicted (q.put key value).2)
  | .remove key => some ((q.remove key).1,.flag (q.remove key).2)
  | .size => some (q,.count q.entries.length)

theorem touch_capacity (q : Lru K V) (key : K) : (q.touch key).1.capacity = q.capacity := by
  unfold touch
  split <;> rfl

theorem put_capacity (q : Lru K V) (key : K) (value : V) : (q.put key value).1.capacity = q.capacity := by
  unfold put
  split_ifs <;> rfl

theorem remove_capacity (q : Lru K V) (key : K) : (q.remove key).1.capacity = q.capacity := by
  unfold remove
  split_ifs <;> rfl

theorem call_capacity {q q' : Lru K V} {e : LruCall K V} {reply : LruReply K V} (answered : q.call e = some (q',reply)) :
    q'.capacity = q.capacity := by
  simp only [call] at answered
  cases e with
  | clear | size => cases answered; rfl
  | find key | get key | hasKey key => cases answered; exact touch_capacity q key
  | put key value => cases answered; exact put_capacity q key value
  | remove key => cases answered; exact remove_capacity q key

end Lru

end Reference

section Refinement

theorem Node.kerase_map_entry (l : List (Node K V)) (k : K) :
    (l.map Node.entry).kerase k = (l.eraseP (·.key = k)).map Node.entry := by
  rw [List.kerase,List.eraseP_map]
  congr 2
  funext n
  simp only [Function.comp_apply,Node.entry]
  exact decide_eq_decide.mpr eq_comm

namespace LegacyLruCache

def view (c : LegacyLruCache K V) : Lru K V := ⟨c.nodeList.map Node.pair,c.capacity⟩

structure Wf (c : LegacyLruCache K V) : Prop where
  ids : (c.nodeList.map Node.id).Nodup
  entries : c.lruMap.entries.Perm (c.nodeList.map Node.entry)
  fresh : ∀ n ∈ c.nodeList, n.id < c.nextId
  fits : c.nodeList.length ≤ c.capacity
  positive : 0 < c.capacity

variable {c : LegacyLruCache K V}

omit [DecidableEq K] in
theorem Wf.keys_perm (wf : c.Wf) : c.lruMap.keys.Perm (c.nodeList.map Node.key) := by
  rw [← Node.keys_map_entry]
  exact wf.entries.map Sigma.fst

omit [DecidableEq K] in
theorem Wf.keys (wf : c.Wf) : (c.nodeList.map Node.key).Nodup :=
  wf.keys_perm.nodup_iff.mp c.lruMap.keys_nodup

theorem Wf.lookup_eq_some (wf : c.Wf) {k : K} {it : Nat} :
    c.lruMap.lookup k = some it ↔ ∃ n ∈ c.nodeList, n.key = k ∧ n.id = it := by
  rw [← Option.mem_def,AList.mem_lookup_iff,wf.entries.mem_iff,List.mem_map]
  simp [Node.entry]

theorem Wf.lookup_eq_none (wf : c.Wf) {k : K} : c.lruMap.lookup k = none ↔ k ∉ c.nodeList.map Node.key := by
  rw [AList.lookup_eq_none,AList.mem_keys,wf.keys_perm.mem_iff]

omit [DecidableEq K] in
theorem Wf.size_eq (wf : c.Wf) : c.size = c.nodeList.length := by
  rw [size,wf.entries.length_eq,List.length_map]

theorem Wf.find_mem (wf : c.Wf) {n : Node K V} (mem : n ∈ c.nodeList) :
    c.find n.key = ({c with nodeList := n :: c.nodeList.eraseP (·.key = n.key)},some n.id) := by
  have found : c.lruMap.lookup n.key = some n.id := wf.lookup_eq_some.mpr ⟨n,mem,rfl,rfl⟩
  have byId : c.nodeList.find? (·.id = n.id) = some n := (KeyedList.find?_eq_some_iff Node.id wf.ids n.id n).mpr ⟨mem,rfl⟩
  rw [find,found]
  simp only [spliceFront,byId,KeyedList.eraseP_eq_eraseP Node.key Node.id wf.keys wf.ids mem]

theorem Wf.find_absent (wf : c.Wf) {k : K} (absent : k ∉ c.nodeList.map Node.key) : c.find k = (c,none) := by
  rw [find,wf.lookup_eq_none.mpr absent]

theorem Wf.perm_front (wf : c.Wf) {n : Node K V} (mem : n ∈ c.nodeList) :
    (n :: c.nodeList.eraseP (·.key = n.key)).Perm c.nodeList :=
  KeyedList.perm_find?_eraseP ((KeyedList.find?_eq_some_iff Node.key wf.keys n.key n).mpr ⟨mem,rfl⟩)

theorem view_find? (c : LegacyLruCache K V) (k : K) :
    c.view.entries.find? (·.1 = k) = (c.nodeList.find? (·.key = k)).map Node.pair :=
  List.find?_map

theorem view_eraseP (c : LegacyLruCache K V) (k : K) :
    c.view.entries.eraseP (·.1 = k) = (c.nodeList.eraseP (·.key = k)).map Node.pair :=
  List.eraseP_map

theorem Wf.view_find?_mem (wf : c.Wf) {n : Node K V} (mem : n ∈ c.nodeList) :
    c.view.entries.find? (·.1 = n.key) = some n.pair := by
  rw [view_find?,(KeyedList.find?_eq_some_iff Node.key wf.keys n.key n).mpr ⟨mem,rfl⟩,Option.map_some]

theorem view_find?_absent {k : K} (absent : k ∉ c.nodeList.map Node.key) : c.view.entries.find? (·.1 = k) = none := by
  rw [view_find?,(KeyedList.find?_eq_none_iff Node.key k).mpr absent,Option.map_none]

theorem Wf.view_touch_mem (wf : c.Wf) {n : Node K V} (mem : n ∈ c.nodeList) :
    c.view.touch n.key = (⟨n.pair :: (c.nodeList.eraseP (·.key = n.key)).map Node.pair,c.capacity⟩,some n.value) := by
  rw [Lru.touch,wf.view_find?_mem mem,view_eraseP]
  rfl

theorem view_touch_absent {k : K} (absent : k ∉ c.nodeList.map Node.key) : c.view.touch k = (c.view,none) := by
  rw [Lru.touch,view_find?_absent absent]

omit [DecidableEq K] in
theorem Wf.perm (wf : c.Wf) {nodes : List (Node K V)} (perm : nodes.Perm c.nodeList) :
    ({c with nodeList := nodes} : LegacyLruCache K V).Wf :=
  ⟨(perm.map Node.id).nodup_iff.mpr wf.ids,wf.entries.trans (perm.map Node.entry).symm,
    fun n mem => wf.fresh n (perm.subset mem),perm.length_eq ▸ wf.fits,wf.positive⟩

theorem Wf.erase (wf : c.Wf) (k : K) :
    ({c with nodeList := c.nodeList.eraseP (·.key = k),lruMap := c.lruMap.erase k} : LegacyLruCache K V).Wf := by
  have sub := List.eraseP_sublist (p := (·.key = k)) (l := c.nodeList)
  refine ⟨(sub.map Node.id).nodup wf.ids,?_,fun n mem => wf.fresh n (sub.subset mem),
    Nat.le_trans sub.length_le wf.fits,wf.positive⟩
  show (c.lruMap.entries.kerase k).Perm _
  rw [← Node.kerase_map_entry]
  exact wf.entries.kerase c.lruMap.nodupKeys

theorem Wf.cons (wf : c.Wf) {k : K} (absent : k ∉ c.nodeList.map Node.key) (room : c.nodeList.length < c.capacity)
    (value : V) :
    (⟨⟨c.nextId,k,value⟩ :: c.nodeList,c.capacity,emplace c.lruMap k c.nextId,c.nextId + 1⟩ : LegacyLruCache K V).Wf := by
  have notKey : k ∉ c.lruMap := by rwa [AList.mem_keys,wf.keys_perm.mem_iff]
  have newId : c.nextId ∉ c.nodeList.map Node.id := fun mem => by
    obtain ⟨n,held,same⟩ := List.mem_map.mp mem
    exact absurd (wf.fresh n held) (by omega)
  refine ⟨List.nodup_cons.mpr ⟨newId,wf.ids⟩,?_,?_,by simp only [List.length_cons]; omega,wf.positive⟩
  · rw [emplace,if_neg notKey,AList.entries_insert_of_notMem notKey]
    exact wf.entries.cons _
  · intro n mem
    rcases List.mem_cons.mp mem with rfl | held
    · exact Nat.lt_succ_self _
    · exact Nat.lt_succ_of_lt (wf.fresh n held)

theorem Wf.get_mem (wf : c.Wf) {n : Node K V} (mem : n ∈ c.nodeList) :
    c.get n.key = ({c with nodeList := n :: c.nodeList.eraseP (·.key = n.key)},some n.value) := by
  have byId : (n :: c.nodeList.eraseP (·.key = n.key)).find? (·.id = n.id) = some n := by
    rw [List.find?_cons_of_pos (by simp)]
  rw [get,wf.find_mem mem]
  simp only [Option.bind_some,deref,byId,Option.map_some]

theorem Wf.put_mem (wf : c.Wf) {n : Node K V} (mem : n ∈ c.nodeList) (value : V) :
    c.put n.key value = ({c with nodeList := {n with value} :: c.nodeList.eraseP (·.key = n.key)},none) := by
  have unique := (wf.perm_front mem).map Node.id |>.nodup_iff.mpr wf.ids
  rw [List.map_cons,List.nodup_cons] at unique
  have kept : (c.nodeList.eraseP (·.key = n.key)).map (fun m => if m.id = n.id then {m with value} else m) =
      c.nodeList.eraseP (·.key = n.key) := by
    refine (List.map_congr_left (g := id) fun m held => ?_).trans (List.map_id _)
    have other : m.id ≠ n.id := fun same => unique.1 (same ▸ List.mem_map_of_mem held)
    rw [if_neg other]
    rfl
  rw [put,wf.find_mem mem]
  simp only [List.map_cons,if_pos,kept]

theorem Wf.popBack_eq (wf : c.Wf) {back : Node K V} (last : c.nodeList.getLast? = some back) :
    c.popBack = ({c with nodeList := c.nodeList.eraseP (·.key = back.key),lruMap := c.lruMap.erase back.key},
      some back.pair) := by
  rw [popBack,last,KeyedList.dropLast_eq_eraseP Node.key wf.keys last]
  rfl

theorem Wf.remove_mem (wf : c.Wf) {n : Node K V} (mem : n ∈ c.nodeList) :
    c.remove n.key = ({c with nodeList := c.nodeList.eraseP (·.key = n.key),lruMap := c.lruMap.erase n.key},true) := by
  have found : c.lruMap.lookup n.key = some n.id := wf.lookup_eq_some.mpr ⟨n,mem,rfl,rfl⟩
  rw [remove,found]
  dsimp only
  rw [KeyedList.eraseP_eq_eraseP Node.key Node.id wf.keys wf.ids mem]

theorem Wf.remove_absent (wf : c.Wf) {k : K} (absent : k ∉ c.nodeList.map Node.key) : c.remove k = (c,false) := by
  rw [remove,wf.lookup_eq_none.mpr absent]

omit [DecidableEq K] in
theorem Wf.getLast?_isSome (wf : c.Wf) (full : c.nodeList.length = c.capacity) : ∃ back, c.nodeList.getLast? = some back := by
  cases last : c.nodeList.getLast? with
  | some back => exact ⟨back,rfl⟩
  | none =>
    rw [List.getLast?_eq_none_iff] at last
    have := wf.positive
    rw [last,List.length_nil] at full
    omega

theorem Wf.put_absent (wf : c.Wf) {k : K} (absent : k ∉ c.nodeList.map Node.key) (value : V) :
    (c.put k value).1.Wf ∧ (c.put k value).1.view = (c.view.put k value).1 ∧ (c.put k value).2 = (c.view.put k value).2 := by
  have notFound : (c.view.entries.find? (·.1 = k)).isSome = false := by rw [view_find?_absent absent]; rfl
  have sized : c.lruMap.entries.length = c.nodeList.length := wf.size_eq
  have viewLength : c.view.entries.length = c.view.capacity ↔ c.nodeList.length = c.capacity := by
    rw [view,List.length_map]
  rw [put,wf.find_absent absent]
  dsimp only
  rw [sized]
  by_cases full : c.nodeList.length = c.capacity
  · obtain ⟨back,last⟩ := wf.getLast?_isSome full
    have erased := wf.erase back.key
    have fewer : (c.nodeList.eraseP (·.key = back.key)).length < c.capacity := by
      rw [List.length_eraseP_of_mem (List.mem_of_getLast? last) (by simp)]
      have := wf.positive
      omega
    have stillAbsent : k ∉ (c.nodeList.eraseP (·.key = back.key)).map Node.key :=
      fun held => absent ((List.eraseP_sublist.map Node.key).subset held)
    rw [if_pos full,wf.popBack_eq last,Lru.put,if_neg (by simp [notFound]),if_pos (viewLength.mpr full)]
    dsimp only
    refine ⟨erased.cons stillAbsent fewer value,?_,?_⟩
    · simp only [view,List.map_cons,← List.map_dropLast,KeyedList.dropLast_eq_eraseP Node.key wf.keys last]
      rfl
    · simp only [view,List.getLast?_map,last,Option.map_some]
  · have room : c.nodeList.length < c.capacity := Nat.lt_of_le_of_ne wf.fits full
    rw [if_neg full,Lru.put,if_neg (by simp [notFound]),if_neg (mt viewLength.mp full)]
    exact ⟨wf.cons absent room value,rfl,rfl⟩

omit [DecidableEq K] in
theorem Wf.front_value (wf : c.Wf) {n : Node K V} {rest : List (Node K V)} (perm : (n :: rest).Perm c.nodeList) (value : V) :
    ({c with nodeList := {n with value} :: rest} : LegacyLruCache K V).Wf := by
  have moved := wf.perm perm
  refine ⟨moved.ids,moved.entries,fun m mem => ?_,moved.fits,moved.positive⟩
  rcases List.mem_cons.mp mem with rfl | held
  · exact moved.fresh n List.mem_cons_self
  · exact moved.fresh m (List.mem_cons_of_mem n held)

-- What every call does, said once: it answers, keeps the cache well formed, and
-- the reference LRU answers the same from the view.
theorem Wf.call_spec (wf : c.Wf) (e : LruCall K V) :
    ∃ c' reply, c.call e = some (c',reply) ∧ c'.Wf ∧ c.view.call e = some (c'.view,reply) := by
  cases e with
  | clear =>
    refine ⟨c.clear,.done,rfl,⟨List.nodup_nil,List.Perm.nil,fun _ mem => (nomatch mem),Nat.zero_le _,wf.positive⟩,rfl⟩
  | find key =>
    by_cases held : key ∈ c.nodeList.map Node.key
    · obtain ⟨n,mem,rfl⟩ := List.mem_map.mp held
      have got := wf.get_mem mem
      simp only [get,Prod.mk.injEq] at got
      refine ⟨_,_,rfl,?_,?_⟩
      · rw [wf.find_mem mem]
        exact wf.perm (wf.perm_front mem)
      · rw [Lru.call,wf.view_touch_mem mem,got.2,wf.find_mem mem]
        rfl
    · refine ⟨_,_,rfl,?_,?_⟩
      · rw [wf.find_absent held]
        exact wf
      · rw [Lru.call,view_touch_absent held,wf.find_absent held]
        rfl
  | get key =>
    by_cases held : key ∈ c.nodeList.map Node.key
    · obtain ⟨n,mem,rfl⟩ := List.mem_map.mp held
      refine ⟨_,_,rfl,?_,?_⟩
      · rw [wf.get_mem mem]
        exact wf.perm (wf.perm_front mem)
      · rw [Lru.call,wf.view_touch_mem mem,wf.get_mem mem]
        rfl
    · have missed : c.get key = (c,none) := by simp only [get,wf.find_absent held,Option.bind_none]
      refine ⟨_,_,rfl,?_,?_⟩
      · rw [missed]
        exact wf
      · rw [Lru.call,view_touch_absent held,missed]
  | hasKey key =>
    by_cases held : key ∈ c.nodeList.map Node.key
    · obtain ⟨n,mem,rfl⟩ := List.mem_map.mp held
      refine ⟨_,_,rfl,?_,?_⟩
      · simp only [hasKey,wf.find_mem mem]
        exact wf.perm (wf.perm_front mem)
      · rw [Lru.call,wf.view_touch_mem mem]
        simp only [hasKey,wf.find_mem mem]
        rfl
    · refine ⟨_,_,rfl,?_,?_⟩
      · simp only [hasKey,wf.find_absent held]
        exact wf
      · rw [Lru.call,view_touch_absent held]
        simp only [hasKey,wf.find_absent held]
        rfl
  | put key value =>
    by_cases held : key ∈ c.nodeList.map Node.key
    · obtain ⟨n,mem,rfl⟩ := List.mem_map.mp held
      have found : (c.view.entries.find? (·.1 = n.key)).isSome = true := by rw [wf.view_find?_mem mem]; rfl
      refine ⟨_,_,rfl,?_,?_⟩
      · rw [wf.put_mem mem]
        exact wf.front_value (wf.perm_front mem) value
      · rw [Lru.call,Lru.put,if_pos found,view_eraseP,wf.put_mem mem]
        rfl
    · obtain ⟨kept,moved,gave⟩ := wf.put_absent held value
      exact ⟨_,_,rfl,kept,by rw [Lru.call,← moved,← gave]⟩
  | remove key =>
    by_cases held : key ∈ c.nodeList.map Node.key
    · obtain ⟨n,mem,rfl⟩ := List.mem_map.mp held
      have found : (c.view.entries.find? (·.1 = n.key)).isSome = true := by rw [wf.view_find?_mem mem]; rfl
      refine ⟨_,_,rfl,?_,?_⟩
      · rw [wf.remove_mem mem]
        exact wf.erase n.key
      · rw [Lru.call,Lru.remove,if_pos found,view_eraseP,wf.remove_mem mem]
        rfl
    · have missing : (c.view.entries.find? (·.1 = key)).isSome = false := by rw [view_find?_absent held]; rfl
      refine ⟨_,_,rfl,?_,?_⟩
      · rw [wf.remove_absent held]
        exact wf
      · rw [Lru.call,Lru.remove,if_neg (by simp [missing]),wf.remove_absent held]
  | size =>
    refine ⟨c,_,rfl,wf,?_⟩
    rw [Lru.call,wf.size_eq]
    simp [view]

def Inv (capacity : Nat) (c : LegacyLruCache K V) : Prop := c.Wf ∧ c.capacity = capacity

theorem call_inv {capacity : Nat} (inv : c.Inv capacity) {e : LruCall K V} {c' : LegacyLruCache K V} {reply : LruReply K V}
    (answered : c.call e = some (c',reply)) : c'.Inv capacity := by
  obtain ⟨c'',reply',called,wf',moved⟩ := inv.1.call_spec e
  rw [answered,Option.some.injEq,Prod.mk.injEq] at called
  obtain ⟨rfl,rfl⟩ := called
  exact ⟨wf',(Lru.call_capacity moved).trans inv.2⟩

theorem call_refines (wf : c.Wf) (e : LruCall K V) : (c.call e).map (fun (s,o) => (s.view,o)) = c.view.call e := by
  obtain ⟨c',reply,called,_,moved⟩ := wf.call_spec e
  rw [called,Option.map_some,moved]

end LegacyLruCache

theorem legacyLruCache_refines_lru (capacity : Nat) (positive : 0 < capacity) (calls : List (LruCall K V)) :
    ∃ cache : LegacyLruCache K V, LegacyLruCache.new capacity = some cache ∧
      (transduce LegacyLruCache.call cache calls).map (fun (c,replies) => (c.view,replies)) =
        transduce Lru.call ⟨[],capacity⟩ calls ∧
      ∀ c replies, transduce LegacyLruCache.call cache calls = some (c,replies) →
        c.size ≤ capacity ∧ c.lruMap.keys.Perm (c.nodeList.map Node.key) ∧ (c.nodeList.map Node.key).Nodup := by
  have built : LegacyLruCache.new capacity = some (⟨[],capacity,∅,0⟩ : LegacyLruCache K V) := by
    rw [LegacyLruCache.new,if_neg (Nat.pos_iff_ne_zero.mp positive)]
  have init : (⟨[],capacity,∅,0⟩ : LegacyLruCache K V).Inv capacity :=
    ⟨⟨List.nodup_nil,List.Perm.nil,fun _ mem => (nomatch mem),Nat.zero_le _,positive⟩,rfl⟩
  have keeps : ∀ (c : LegacyLruCache K V) e c' reply, c.Inv capacity → True → c.call e = some (c',reply) →
      c'.Inv capacity :=
    fun _ _ _ _ inv _ answered => LegacyLruCache.call_inv inv answered
  refine ⟨_,built,?_,fun c replies ran => ?_⟩
  · exact Machine.transduce_refines LegacyLruCache.view keeps (fun _ e inv _ => LegacyLruCache.call_refines inv.1 e)
      calls init fun _ _ => trivial
  · obtain ⟨wf,kept⟩ := Machine.transduce_keeps keeps calls init (fun _ _ => trivial) ran
    rw [wf.size_eq,← kept]
    exact ⟨wf.fits,wf.keys_perm,wf.keys⟩

theorem legacyLruCache_refines_lru_sample :
    0 < 2 ∧ ∃ cache : LegacyLruCache Nat Nat, LegacyLruCache.new 2 = some cache ∧
      (transduce LegacyLruCache.call cache [.put 1 10,.put 2 20,.get 1,.put 3 30,.hasKey 2,.put 1 11,.remove 3,.size]).map
          (fun (c,replies) => (c.view,replies)) =
        transduce Lru.call ⟨[],2⟩ [.put 1 10,.put 2 20,.get 1,.put 3 30,.hasKey 2,.put 1 11,.remove 3,.size] ∧
      ∀ c replies,
        transduce LegacyLruCache.call cache [.put 1 10,.put 2 20,.get 1,.put 3 30,.hasKey 2,.put 1 11,.remove 3,.size] =
          some (c,replies) →
        c.size ≤ 2 ∧ c.lruMap.keys.Perm (c.nodeList.map Node.key) ∧ (c.nodeList.map Node.key).Nodup :=
  ⟨by decide,legacyLruCache_refines_lru 2 (by decide) _⟩

end Refinement

end BluetoothStack.Common
