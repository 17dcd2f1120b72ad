import BluetoothStack.Sys.Utl

namespace BluetoothStack.Ag

open CString Sys

-- bta_ag_process_at: the command table lookup of the audio gateway's AT
-- interpreter and the handling of the argument after the command.

def btaAgAtNone : UInt8 := 0x01
def btaAgAtSet : UInt8 := 0x02
def btaAgAtRead : UInt8 := 0x04
def btaAgAtTest : UInt8 := 0x08
def btaAgAtFree : UInt8 := 0x10
def btaAgAtStr : UInt8 := 0
def btaAgAtInt : UInt8 := 1

structure AtCmd where
  cmd : List Char
  commandId : Nat
  argType : UInt8
  fmt : UInt8
  min : UInt8
  max : Int16
  deriving DecidableEq, Repr

-- The command callback takes command_id as a uint16_t; the error callback's
-- p_arg is a C string or NULL.
inductive Call where
  | cmdCback (commandId : UInt16) (argType : UInt8) (arg : List Char) (intArg : Int)
  | errCback (unknown : Bool) (arg : Option (List Char))
  deriving DecidableEq, Repr

-- The loop over p_at_tbl, which ends at the entry whose command is empty.
-- The list's end stands for that entry too.
def findAtCmd (text : List Char) : List AtCmd → Option AtCmd
  | [] => none
  | entry :: rest =>
    if peek entry.cmd == nul then none
    else if utlStrucmp entry.cmd text == 0 then some entry else findAtCmd text rest

-- The argument syntax bta_ag_process_at tells from p_arg[0], p_arg[1] and
-- p_arg[2], with the argument it then passes on: after the '=' of a set.
def atArgType (pArg : List Char) : UInt8 × List Char :=
  if pArg.getD 0 nul == nul then (btaAgAtNone,pArg)
  else if pArg.getD 0 nul == '?' && pArg.getD 1 nul == nul then (btaAgAtRead,pArg)
  else if pArg.getD 0 nul == '=' && pArg.getD 1 nul != nul then
    if pArg.getD 1 nul == '?' && pArg.getD 2 nul == nul then (btaAgAtTest,pArg) else (btaAgAtSet,pArg.drop 1)
  else (btaAgAtFree,pArg)

-- The branch for a matching entry. The text runs from p_cmd_buf to p_end,
-- where the parser wrote the NUL.
def processAtEntry (entry : AtCmd) (text : List Char) : Call :=
  let offset := (cString entry.cmd).length
  if offset > text.length then .errCback false none
  else
    match atArgType (text.drop offset) with
    | (argType,pArg) =>
      if argType &&& entry.argType != 0 then
        if argType == btaAgAtSet && entry.fmt == btaAgAtInt then
          let intArg := utlStr2int pArg
          if intArg < (entry.min.toNat : Int) || intArg > entry.max.toInt then .errCback false none
          else .cmdCback (UInt16.ofNat entry.commandId) argType pArg intArg
        else .cmdCback (UInt16.ofNat entry.commandId) argType pArg 0
      else .errCback false none

def btaAgProcessAt (atTbl : List AtCmd) (text : List Char) : Call :=
  match findAtCmd text atTbl with
  | some entry => processAtEntry entry text
  | none => .errCback true (some (cString text))

def tableEntries (atTbl : List AtCmd) : List AtCmd := atTbl.takeWhile (fun entry => peek entry.cmd != nul)

section Lookup

theorem tableEntries_cons (entry : AtCmd) (rest : List AtCmd) :
    tableEntries (entry :: rest) = if peek entry.cmd != nul then entry :: tableEntries rest else [] := by
  simp only [tableEntries,List.takeWhile_cons]

theorem findAtCmd_eq (text : List Char) (atTbl : List AtCmd) :
    findAtCmd text atTbl = (tableEntries atTbl).find? (fun entry => utlStrucmp entry.cmd text == 0) := by
  induction atTbl with
  | nil => rfl
  | cons entry rest ih =>
    rw [findAtCmd,tableEntries_cons]
    by_cases empty : peek entry.cmd = nul
    · simp [empty]
    · have going : (peek entry.cmd != nul) = true := by simpa using empty
      have notEmpty : (peek entry.cmd == nul) = false := by simpa using empty
      rw [if_pos going,if_neg (by simp [notEmpty]),List.find?_cons,← ih]
      cases utlStrucmp entry.cmd text == 0 <;> rfl

theorem findAtCmd_eq_caseInsensitive {atTbl : List AtCmd}
    (upper : ∀ entry ∈ tableEntries atTbl, ∀ c ∈ cString entry.cmd, c.isLower = false) (text : List Char) :
    findAtCmd text atTbl =
      (tableEntries atTbl).find? (fun entry => decide (caseInsensitivePrefix (cString entry.cmd) text)) := by
  rw [findAtCmd_eq]
  apply List.find?_congr
  intro entry mem
  have same := utlStrucmp_eq_zero_iff_caseInsensitivePrefix (upper entry mem) text
  exact Bool.eq_iff_iff.mpr (by simpa using same)

theorem utlStrucmp_of_findAtCmd {text : List Char} {atTbl : List AtCmd} {entry : AtCmd}
    (found : findAtCmd text atTbl = some entry) : utlStrucmp entry.cmd text = 0 := by
  rw [findAtCmd_eq] at found
  simpa using List.find?_some found

end Lookup

section Argument

theorem atArgType_set {arg : List Char} (nonEmpty : peek arg ≠ nul) (notTest : ¬(peek arg = '?' ∧ arg.getD 1 nul = nul)) :
    atArgType ('=' :: arg) = (btaAgAtSet,arg) := by
  have second : ('=' :: arg).getD 1 nul = peek arg := by
    cases arg <;> rfl
  have third : ('=' :: arg).getD 2 nul = arg.getD 1 nul := by
    cases arg <;> rfl
  have first : ('=' :: arg).getD 0 nul = '=' := rfl
  have notNul : ('=' == nul) = false := by decide
  have notRead : ('=' == '?') = false := by decide
  simp only [atArgType,first,second,third,notNul,notRead,Bool.false_eq_true,↓reduceIte,Bool.false_and,beq_self_eq_true,
    Bool.true_and,bne_iff_ne,ne_eq,nonEmpty,not_false_eq_true,Bool.and_eq_true,beq_iff_eq,notTest,List.drop_one,
    List.tail_cons]

theorem processAtEntry_set_int {entry : AtCmd} {text arg : List Char} (integer : entry.fmt = btaAgAtInt)
    (allowed : btaAgAtSet &&& entry.argType ≠ 0) (set : text.drop (cString entry.cmd).length = '=' :: arg)
    (nonEmpty : peek arg ≠ nul) (notTest : ¬(peek arg = '?' ∧ arg.getD 1 nul = nul)) :
    processAtEntry entry text =
      match decimalValue arg with
      | some v =>
        if entry.min.toNat ≤ v ∧ (v : Int) ≤ entry.max.toInt then .cmdCback (UInt16.ofNat entry.commandId) btaAgAtSet arg v
        else .errCback false none
      | none => .errCback false none := by
  have within : (cString entry.cmd).length ≤ text.length := by
    have longer := congrArg List.length set
    simp only [List.length_drop,List.length_cons] at longer
    omega
  have below := entry.max.toInt_lt
  have allowedBool : (btaAgAtSet &&& entry.argType != 0) = true := by simpa using allowed
  have isInt : (entry.fmt == btaAgAtInt) = true := by simpa using integer
  simp only [processAtEntry,gt_iff_lt,not_lt.mpr within,↓reduceIte,set,atArgType_set nonEmpty notTest,allowedBool,
    beq_self_eq_true,isInt,Bool.and_self,utlStr2int_eq]
  cases decimalValue arg with
  | none =>
    have atLeast : (0 : Int) ≤ entry.min.toNat := Int.natCast_nonneg _
    simp only [show (-1 : Int) < entry.min.toNat by omega,decide_true,Bool.true_or,↓reduceIte]
  | some v =>
    have atLeast : (0 : Int) ≤ entry.min.toNat := Int.natCast_nonneg _
    dsimp only
    by_cases small : v ≤ 32767
    · simp only [if_pos small]
      by_cases range : entry.min.toNat ≤ v ∧ (v : Int) ≤ entry.max.toInt
      · have inRange : (decide ((v : Int) < entry.min.toNat) || decide (entry.max.toInt < v)) = false := by
          simp only [Bool.or_eq_false_iff,decide_eq_false_iff_not]
          omega
        simp only [inRange,Bool.false_eq_true,↓reduceIte,if_pos range]
      · have outRange : (decide ((v : Int) < entry.min.toNat) || decide (entry.max.toInt < v)) = true := by
          simp only [Bool.or_eq_true,decide_eq_true_eq]
          omega
        simp only [outRange,↓reduceIte,if_neg range]
    · -- a numeral past 32767 is also past max, so the -1 it gives is right
      have outRange : ¬(entry.min.toNat ≤ v ∧ (v : Int) ≤ entry.max.toInt) := by omega
      simp only [small,↓reduceIte,outRange,show (-1 : Int) < entry.min.toNat by omega,decide_true,Bool.true_or]

end Argument

end BluetoothStack.Ag
