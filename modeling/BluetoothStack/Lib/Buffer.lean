import Mathlib

namespace Buffer

variable {α : Type}

-- A bounded copy into a buffer of fixed size. A copy that would run past the
-- end of the buffer is undefined behaviour and yields no buffer at all.
def write (buffer : List α) (pos : Nat) (src : List α) : Option (List α) :=
  if pos + src.length ≤ buffer.length then
    some (buffer.take pos ++ src ++ buffer.drop (pos+src.length))
  else none

def slice (buffer : List α) (pos len : Nat) : List α := (buffer.drop pos).take len

theorem write_eq {buffer src : List α} {pos : Nat} (fits : pos + src.length ≤ buffer.length) :
    write buffer pos src = some (buffer.take pos ++ src ++ buffer.drop (pos+src.length)) := by
  simp [write,fits]

theorem write_isSome {buffer src : List α} {pos : Nat} :
    (write buffer pos src).isSome ↔ pos + src.length ≤ buffer.length := by
  unfold write
  split <;> simp_all

theorem write_fits {buffer src result : List α} {pos : Nat}
    (written : write buffer pos src = some result) : pos + src.length ≤ buffer.length := by
  unfold write at written
  split at written
  · assumption
  · cases written

theorem write_length {buffer src result : List α} {pos : Nat}
    (written : write buffer pos src = some result) : result.length = buffer.length := by
  have fits := write_fits written
  rw [write_eq fits] at written
  cases Option.some.inj written
  simp only [List.length_append,List.length_take,List.length_drop]
  omega

theorem exists_write {buffer src : List α} {pos : Nat} (fits : pos + src.length ≤ buffer.length) :
    ∃ result, write buffer pos src = some result ∧ result.length = buffer.length := by
  obtain ⟨result,written⟩ := Option.isSome_iff_exists.mp (write_isSome.mpr fits)
  exact ⟨result,written,write_length written⟩

theorem take_write {buffer src result : List α} {pos : Nat} (written : write buffer pos src = some result) :
    result.take pos = buffer.take pos := by
  have fits := write_fits written
  rw [write_eq fits] at written
  cases Option.some.inj written
  rw [List.append_assoc,List.take_left' (by simp; omega)]

theorem getElem?_write {buffer src result : List α} {pos : Nat}
    (written : write buffer pos src = some result) (i : Nat) :
    result[i]? = if pos ≤ i ∧ i < pos + src.length then src[i-pos]? else buffer[i]? := by
  have fits := write_fits written
  rw [write_eq fits] at written
  cases Option.some.inj written
  have taken : (buffer.take pos).length = pos := by simp; omega
  by_cases before : i < pos
  · rw [List.append_assoc,List.getElem?_append_left (by omega),List.getElem?_take_of_lt before]
    simp; omega
  · rw [List.append_assoc,List.getElem?_append_right (by omega),taken]
    by_cases inside : i - pos < src.length
    · rw [List.getElem?_append_left inside,if_pos (by omega)]
    · rw [List.getElem?_append_right (by omega),List.getElem?_drop,if_neg (by omega)]
      congr 1
      omega

theorem slice_write_same {buffer src result : List α} {pos : Nat}
    (written : write buffer pos src = some result) : slice result pos src.length = src := by
  have fits := write_fits written
  rw [write_eq fits] at written
  cases Option.some.inj written
  have taken : (buffer.take pos).length = pos := by simp; omega
  simp [slice,taken]

theorem slice_length (buffer : List α) (pos len : Nat) :
    (slice buffer pos len).length = min len (buffer.length - pos) := by
  simp [slice]

theorem write_append_left {front src : List α} (rest : List α) {pos : Nat}
    (inside : pos + src.length ≤ front.length) :
    write (front ++ rest) pos src = (write front pos src).map (· ++ rest) := by
  have fits : pos + src.length ≤ (front ++ rest).length := by simp; omega
  rw [write_eq fits,write_eq inside,List.take_append_of_le_length (by omega),
    List.drop_append_of_le_length inside]
  simp

theorem write_at_end (front : List α) {src rest : List α} (room : src.length ≤ rest.length) :
    write (front ++ rest) front.length src = some (front ++ src ++ rest.drop src.length) := by
  have fits : front.length + src.length ≤ (front ++ rest).length := by simp; omega
  rw [write_eq fits]
  simp [List.drop_append]

theorem write_map {β : Type} (f : α → β) (buffer src : List α) (pos : Nat) :
    write (buffer.map f) pos (src.map f) = (write buffer pos src).map (List.map f) := by
  unfold write
  simp only [List.length_map]
  split <;> simp [List.map_take,List.map_drop]

theorem write_middle (front segment back : List α) {pos : Nat} {src : List α}
    (inside : pos + src.length ≤ segment.length) :
    write (front ++ segment ++ back) (front.length + pos) src =
      (write segment pos src).map (front ++ · ++ back) := by
  have fits : front.length + pos + src.length ≤ (front ++ segment ++ back).length := by simp; omega
  rw [write_eq fits,write_eq inside]
  simp only [Option.map_some,List.append_assoc,List.take_append,List.drop_append]
  have first : front.length + pos - front.length = pos := by omega
  have second : front.length + pos + src.length - front.length = pos + src.length := by omega
  have third : pos + src.length - segment.length = 0 := by omega
  have fourth : pos - segment.length = 0 := by omega
  simp [first,second,third,fourth,List.take_of_length_le (show front.length ≤ front.length + pos by omega),
    List.drop_of_length_le (show front.length ≤ front.length + pos + src.length by omega)]

theorem write_replace (front middle back : List α) {src : List α} (same : src.length = middle.length) :
    write (front ++ middle ++ back) front.length src = some (front ++ src ++ back) := by
  rw [List.append_assoc,write_at_end front (by simp; omega),same,List.drop_left]

theorem slice_middle (front segment back : List α) {len : Nat} (within : len ≤ segment.length) :
    slice (front ++ segment ++ back) front.length len = segment.take len := by
  simp [slice,List.append_assoc,List.take_append_of_le_length within]

theorem slice_write_disjoint {buffer src result : List α} {start pos len : Nat}
    (written : write buffer start src = some result) (apart : start + src.length ≤ pos ∨ pos + len ≤ start) :
    slice result pos len = slice buffer pos len := by
  apply List.ext_getElem?
  intro i
  simp only [slice,List.getElem?_take,List.getElem?_drop,getElem?_write written]
  split_ifs with inside
  · omega
  · rfl
  · rfl

theorem slice_slice (buffer : List α) (pos len pos' len' : Nat) (within : pos' + len' ≤ len) :
    slice (slice buffer pos len) pos' len' = slice buffer (pos + pos') len' := by
  simp only [slice,List.drop_take,List.take_take,List.drop_drop]
  congr 1
  omega

theorem slice_add (buffer : List α) (pos len len' : Nat) :
    slice buffer pos (len + len') = slice buffer pos len ++ slice buffer (pos + len) len' := by
  rw [slice,slice,slice,List.take_add,List.drop_drop]

theorem slice_write_front {buffer src result : List α} {pos : Nat} (written : write buffer pos src = some result)
    (len : Nat) : slice result pos (src.length + len) = src ++ slice buffer (pos + src.length) len := by
  have fits := write_fits written
  rw [write_eq fits] at written
  cases Option.some.inj written
  have taken : (buffer.take pos).length = pos := by simp; omega
  simp [slice,taken,List.take_append]

theorem getD_of_slice_eq_cons {buffer rest : List α} {pos len : Nat} {b d : α}
    (sliced : slice buffer pos len = b :: rest) : buffer.getD pos d = b := by
  have head := congrArg (·[0]?) sliced
  simp only [slice,List.getElem?_take,List.getElem?_drop,List.getElem?_cons_zero,Nat.add_zero] at head
  split at head
  · rw [List.getD_eq_getElem?_getD,head,Option.getD_some]
  · cases head

theorem slice_succ_of_slice_eq_cons {buffer rest : List α} {pos len : Nat} {b : α}
    (sliced : slice buffer pos len = b :: rest) : slice buffer (pos + 1) (len - 1) = rest := by
  have tail := congrArg List.tail sliced
  simp only [slice,List.tail_take_eq_take_tail,List.tail_drop,List.tail_cons] at tail
  exact tail

end Buffer
