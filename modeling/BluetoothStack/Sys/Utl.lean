import BluetoothStack.Lib.CString

namespace BluetoothStack.Sys

open CString

-- The string helpers of utl.cc that the AT command interpreter uses.

-- utl_strucmp upper-cases a character of p_t with c -= 0x20.
def upcase (c : Char) : Char := if 'a' ≤ c ∧ c ≤ 'z' then Char.ofNat (c.toNat - 0x20) else c

-- The test after the loop of utl_strucmp: p_t ended while p_s goes on.
def strucmpEnd (pS pT : List Char) : Int := if peek pT == nul && peek pS != nul then 1 else 0

def utlStrucmp : List Char → List Char → Int
  | a :: pS,b :: pT =>
    if a != nul && b != nul then
      if a != upcase b then -1 else utlStrucmp pS pT
    else strucmpEnd (a :: pS) (b :: pT)
  | pS,pT => strucmpEnd pS pT

-- The digit loop of utl_str2int. Its int32_t val never goes negative and is
-- at most 32767 before it is multiplied by ten, so a Nat holds it exactly.
def str2intLoop (val : Nat) : List Char → Int
  | c :: rest =>
    if c < '0' || c > '9' then -1
    else
      let val := val + (c.toNat - '0'.toNat)
      if val > 32767 then -1
      else if peek rest == nul then val
      else str2intLoop (val * 10) rest
  | [] => -1

def utlStr2int (pS : List Char) : Int :=
  let pS := pS.dropWhile (· == ' ')
  if peek pS == nul then -1 else str2intLoop 0 pS

-- What the two are meant to compute: a prefix test that ignores ASCII case,
-- and the value of a numeral after leading spaces, read up to the NUL.

def caseInsensitivePrefix (pS pT : List Char) : Prop := pS.map Char.toUpper <+: pT.map Char.toUpper

instance caseInsensitivePrefixDecidable (pS pT : List Char) : Decidable (caseInsensitivePrefix pS pT) :=
  inferInstanceAs (Decidable (_ <+: _))

def decimalValue (text : List Char) : Option Nat :=
  let digits := (cString text).dropWhile (· == ' ')
  if digits ≠ [] ∧ digits.all (fun c => (decimalDigit c).isSome) then some (digitsValue 10 (digits.filterMap decimalDigit))
  else none

section Strucmp

theorem upcase_eq_toUpper (c : Char) : upcase c = c.toUpper := by
  unfold upcase Char.toUpper
  by_cases lower : 'a' ≤ c ∧ c ≤ 'z'
  · have lowerVal : 'a'.val ≤ c.val ∧ c.val ≤ 'z'.val := lower
    rw [if_pos lower,dif_pos lowerVal]
    apply Char.ext
    have range : 97 ≤ c.toNat ∧ c.toNat ≤ 122 := lower
    have valid : (c.toNat - 0x20).isValidChar := Or.inl (by omega)
    rw [Char.val_ofNat]
    · -- c - 0x20 in Nat is c plus 'A' - 'a' in UInt32, which wraps
      apply UInt32.toNat_inj.mp
      have code : c.val.toNat = c.toNat := rfl
      have shift : ('A'.val - 'a'.val).toNat = 4294967264 := by decide
      simp only [UInt32.toNat_ofNat',UInt32.toNat_add,code,shift]
      omega
    · exact valid
  · have lowerVal : ¬('a'.val ≤ c.val ∧ c.val ≤ 'z'.val) := lower
    rw [if_neg lower,dif_neg lowerVal]

theorem toUpper_of_isLower_eq_false {c : Char} (upper : c.isLower = false) : c.toUpper = c := by
  have notLower : ¬('a'.val ≤ c.val ∧ c.val ≤ 'z'.val) := by
    simpa [Char.isLower] using upper
  rw [Char.toUpper,dif_neg notLower]

theorem utlStrucmp_nil_left (pT : List Char) : utlStrucmp [] pT = strucmpEnd [] pT := by
  cases pT <;> rfl

theorem utlStrucmp_nil_right (pS : List Char) : utlStrucmp pS [] = strucmpEnd pS [] := by
  cases pS <;> rfl

theorem cString_cons_of_ne {c : Char} (other : c ≠ nul) (rest : List Char) : cString (c :: rest) = c :: cString rest := by
  simp [cString,other]

theorem cString_cons_nul (rest : List Char) : cString (nul :: rest) = [] := by
  simp [cString]

theorem utlStrucmp_eq_zero_iff (pS pT : List Char) : utlStrucmp pS pT = 0 ↔ cString pS <+: (cString pT).map upcase := by
  induction pS generalizing pT with
  | nil => simp [utlStrucmp_nil_left,strucmpEnd,peek,cString]
  | cons a pS ih =>
    by_cases endS : a = nul
    · subst endS
      rw [cString_cons_nul]
      cases pT <;> simp [utlStrucmp,strucmpEnd,peek]
    cases pT with
    | nil => simp [utlStrucmp_nil_right,strucmpEnd,peek,endS,cString]
    | cons b pT =>
      by_cases endT : b = nul
      · subst endT
        simp [utlStrucmp,strucmpEnd,peek,endS,cString_cons_of_ne endS,cString_cons_nul]
      · have step : utlStrucmp (a :: pS) (b :: pT) = if a != upcase b then -1 else utlStrucmp pS pT := by
          simp [utlStrucmp,endS,endT]
        rw [step,cString_cons_of_ne endS,cString_cons_of_ne endT,List.map_cons,List.cons_prefix_cons,← ih pT]
        by_cases same : a = upcase b
        · simp [same]
        · simp [same]

theorem prefix_map_cString_iff {q : List Char} (noNul : ∀ c ∈ q, c ≠ nul) (pT : List Char) :
    q <+: (cString pT).map Char.toUpper ↔ q <+: pT.map Char.toUpper := by
  induction q generalizing pT with
  | nil => simp
  | cons c q ih =>
    have head : c ≠ nul := noNul c (.head _)
    cases pT with
    | nil => simp [cString]
    | cons d pT =>
      by_cases endT : d = nul
      · subst endT
        have raised : Char.toUpper nul = nul := by decide
        simp [cString_cons_nul,raised,head]
      · rw [cString_cons_of_ne endT,List.map_cons,List.map_cons,List.cons_prefix_cons,List.cons_prefix_cons,
          ih (fun c mem => noNul c (.tail _ mem))]

theorem utlStrucmp_eq_zero_iff_caseInsensitivePrefix {pS : List Char} (upper : ∀ c ∈ cString pS, c.isLower = false)
    (pT : List Char) : utlStrucmp pS pT = 0 ↔ caseInsensitivePrefix (cString pS) pT := by
  have raised : (cString pS).map Char.toUpper = cString pS := by
    rw [List.map_congr_left (fun c mem => toUpper_of_isLower_eq_false (upper c mem)),List.map_id']
  have noNul : ∀ c ∈ cString pS, c ≠ nul := fun c mem => by
    simpa using List.mem_takeWhile_imp mem
  rw [utlStrucmp_eq_zero_iff,caseInsensitivePrefix,raised,← prefix_map_cString_iff noNul,
    List.map_congr_left (fun c _ => upcase_eq_toUpper c)]

end Strucmp

section Str2int

def decimalStep (acc d : Nat) : Nat := acc * 10 + d

theorem le_foldl_decimalStep (acc : Nat) (digits : List Nat) : acc ≤ digits.foldl decimalStep acc := by
  induction digits generalizing acc with
  | nil => exact le_rfl
  | cons d digits ih => exact le_trans (by unfold decimalStep; omega) (ih _)

theorem digit_test_iff (c : Char) : (c < '0' || c > '9') = true ↔ decimalDigit c = none := by
  unfold decimalDigit
  by_cases range : '0' ≤ c ∧ c ≤ '9'
  · rw [if_pos range]
    simp only [Bool.or_eq_true,decide_eq_true_eq,reduceCtorEq,iff_false,not_or,not_lt]
    exact range
  · rw [if_neg range]
    simp only [Bool.or_eq_true,decide_eq_true_eq,iff_true]
    rcases not_and_or.mp range with low | high
    · exact .inl (lt_of_not_ge low)
    · exact .inr (lt_of_not_ge high)

-- Since the value only grows, testing it at every digit is testing the whole
-- numeral at the end.
theorem str2intLoop_eq (acc : Nat) {text : List Char} (start : peek text ≠ nul) :
    str2intLoop (acc * 10) text =
      if (cString text).all (fun c => (decimalDigit c).isSome) ∧
          ((cString text).filterMap decimalDigit).foldl decimalStep acc ≤ 32767
      then ↑(((cString text).filterMap decimalDigit).foldl decimalStep acc) else -1 := by
  induction text generalizing acc with
  | nil => exact absurd rfl start
  | cons c rest ih =>
    have head : c ≠ nul := start
    rw [cString_cons_of_ne head,str2intLoop]
    cases digit : decimalDigit c with
    | none =>
      have test : (c < '0' || c > '9') = true := (digit_test_iff c).mpr digit
      simp [test,digit]
    | some d =>
      have test : (c < '0' || c > '9') = false := by
        rw [← Bool.not_eq_true,digit_test_iff,digit]
        simp
      have value : c.toNat - '0'.toNat = d := by
        unfold decimalDigit at digit
        split at digit
        · exact Option.some.inj digit
        · cases digit
      have grows := le_foldl_decimalStep (decimalStep acc d) ((cString rest).filterMap decimalDigit)
      have stepped : decimalStep acc d = acc * 10 + d := rfl
      simp only [test,Bool.false_eq_true,↓reduceIte,value,List.all_cons,digit,Option.isSome_some,Bool.true_and,
        List.filterMap_cons,List.foldl_cons]
      by_cases over32767 : acc * 10 + d > 32767
      · rw [if_pos over32767,if_neg (fun ⟨_,small⟩ => by omega)]
      · rw [if_neg over32767]
        by_cases ended : peek rest = nul
        · have empty : cString rest = [] := by
            cases rest with
            | nil => rfl
            | cons e rest =>
              have isNul : e = nul := ended
              rw [isNul,cString_cons_nul]
          simp only [ended,beq_self_eq_true,↓reduceIte,empty,List.all_nil,List.filterMap_nil,List.foldl_nil]
          unfold decimalStep
          rw [if_pos ⟨trivial,by omega⟩]
        · have ongoing : (peek rest == nul) = false := by simpa using ended
          rw [if_neg (by simp [ongoing]),ih (acc * 10 + d) ended]
          rfl

theorem cString_dropWhile_space (text : List Char) :
    (cString text).dropWhile (· == ' ') = cString (text.dropWhile (· == ' ')) := by
  induction text with
  | nil => rfl
  | cons c rest ih =>
    by_cases space : c = ' '
    · subst space
      have notNul : ' ' ≠ nul := by decide
      rw [cString_cons_of_ne notNul]
      simpa using ih
    · by_cases endC : c = nul
      · subst endC
        have notSpace : (nul == ' ') = false := by decide
        simp [cString_cons_nul,notSpace]
      · simp [space,cString_cons_of_ne endC]

theorem utlStr2int_eq (pS : List Char) :
    utlStr2int pS = match decimalValue pS with
      | some v => if v ≤ 32767 then (v : Int) else -1
      | none => -1 := by
  unfold utlStr2int decimalValue
  rw [cString_dropWhile_space]
  generalize pS.dropWhile (· == ' ') = body
  by_cases ended : peek body = nul
  · have empty : cString body = [] := by
      cases body with
      | nil => rfl
      | cons e rest =>
        have isNul : e = nul := ended
        rw [isNul,cString_cons_nul]
    simp [ended,empty]
  · have started : cString body ≠ [] := by
      cases body with
      | nil => exact absurd rfl ended
      | cons e rest =>
        have head : e ≠ nul := ended
        rw [cString_cons_of_ne head]
        exact List.cons_ne_nil _ _
    have loop := str2intLoop_eq 0 ended
    rw [Nat.zero_mul] at loop
    simp only [ended,beq_iff_eq,↓reduceIte,loop,started,ne_eq,not_false_eq_true,true_and]
    unfold digitsValue
    by_cases digits : (cString body).all (fun c => (decimalDigit c).isSome) = true
    · simp only [digits,true_and,↓reduceIte]
      rfl
    · simp [digits]

-- The two directions the comment of utl_str2int gives.
theorem utlStr2int_nonneg_iff (pS : List Char) :
    0 ≤ utlStr2int pS ↔ ∃ v, decimalValue pS = some v ∧ v ≤ 32767 := by
  rw [utlStr2int_eq]
  cases decimalValue pS with
  | none => simp
  | some v =>
    by_cases small : v ≤ 32767
    · simp [small]
    · simp [small]

theorem utlStr2int_of_decimalValue {pS : List Char} {v : Nat} (numeral : decimalValue pS = some v)
    (small : v ≤ 32767) : utlStr2int pS = v := by
  rw [utlStr2int_eq,numeral]
  exact if_pos small

end Str2int

end BluetoothStack.Sys
