import Mathlib

namespace BluetoothStack.CString

-- A char* is the array from the pointer on. Past what was written the array
-- holds zeros, which the end of the list stands for.

def nul : Char := '\x00'

def peek (text : List Char) : Char := text.headD nul

def cString (text : List Char) : List Char := text.takeWhile (· != nul)

theorem cString_eq_self {text : List Char} (noNul : ∀ c ∈ text, c ≠ nul) : cString text = text :=
  List.takeWhile_eq_self_iff.mpr fun c mem => bne_iff_ne.mpr (noNul c mem)

def isSpace (c : Char) : Bool :=
  c == ' ' || c == '\t' || c == '\n' || c == '\x0b' || c == '\x0c' || c == '\r'

-- strstr(text, needle) for a needle without NUL: the array from the first
-- place in the string where the needle starts.
def strstr (needle : List Char) : List Char → Option (List Char)
  | [] => none
  | c :: rest =>
    if needle.isPrefixOf (c :: rest) then some (c :: rest)
    else if c = nul then none else strstr needle rest

section Strstr

variable {needle : List Char}

theorem strstr_suffix {text found : List Char} (hit : strstr needle text = some found) : found <:+ text := by
  induction text with
  | nil => simp [strstr] at hit
  | cons c rest ih =>
    simp only [strstr] at hit
    split at hit
    · cases hit
      exact List.suffix_refl _
    · split at hit
      · cases hit
      · exact (ih hit).trans (List.suffix_cons c rest)

theorem strstr_starts_with_needle {text found : List Char} (hit : strstr needle text = some found) : needle <+: found := by
  induction text with
  | nil => simp [strstr] at hit
  | cons c rest ih =>
    simp only [strstr] at hit
    split at hit
    · cases hit
      exact List.isPrefixOf_iff_prefix.mp ‹_›
    · split at hit
      · cases hit
      · exact ih hit

end Strstr

theorem isPrefixOf_append_eq_false {expected text : List Char} (rest : List Char)
    (differ : (List.zipWith (· != ·) expected text).any id = true) : expected.isPrefixOf (text ++ rest) = false := by
  induction expected generalizing text with
  | nil => simp at differ
  | cons c expected ih =>
    cases text with
    | nil => simp at differ
    | cons d text =>
      simp only [List.zipWith_cons_cons,List.any_cons,id,Bool.or_eq_true] at differ
      simp only [List.cons_append,List.isPrefixOf_cons_cons,Bool.and_eq_false_iff]
      rcases differ with different | later
      · left
        simpa using different
      · exact .inr (ih later)

inductive Directive where
  | space
  | literal (c : Char)
  | unsigned (bits : Nat)
  | integer (bits : Nat)
  | scanset (width : Nat) (excluded : List Char)
  | skipSet (included : List Char)
  | count
  | hex (width bits : Nat)
  | char
deriving DecidableEq, Repr

inductive Value where
  | number (n : Nat)
  | text (chars : List Char)
deriving DecidableEq, Repr

inductive Step where
  | matched (value : Option Value) (rest : List Char)
  | matchingFailure
  | inputFailure

section Numbers

def decimalDigit (c : Char) : Option Nat := if '0' ≤ c ∧ c ≤ '9' then some (c.toNat - '0'.toNat) else none

def octalDigit (c : Char) : Option Nat := if '0' ≤ c ∧ c ≤ '7' then some (c.toNat - '0'.toNat) else none

def hexDigit (c : Char) : Option Nat :=
  if '0' ≤ c ∧ c ≤ '9' then some (c.toNat - '0'.toNat)
  else if 'a' ≤ c ∧ c ≤ 'f' then some (c.toNat - 'a'.toNat + 10)
  else if 'A' ≤ c ∧ c ≤ 'F' then some (c.toNat - 'A'.toNat + 10) else none

def digitRun (digit : Char → Option Nat) : List Char → List Nat × List Char
  | [] => ([],[])
  | c :: rest =>
    match digit c with
    | some d => ((d :: (digitRun digit rest).1),(digitRun digit rest).2)
    | none => ([],c :: rest)

def digitsValue (base : Nat) (digits : List Nat) : Nat := digits.foldl (fun acc d => acc * base + d) 0

def sign : List Char → Bool × List Char
  | '-' :: rest => (true,rest)
  | '+' :: rest => (false,rest)
  | input => (false,input)

-- The digits strtol reads with base 0: 0x and hexadecimal, a leading 0 and
-- octal, decimal otherwise.
def baseDigits : List Char → Nat × List Nat × List Char
  | '0' :: x :: rest =>
    if (x = 'x' ∨ x = 'X') ∧ ((rest.head?).bind hexDigit).isSome then (16,digitRun hexDigit rest)
    else (8,digitRun octalDigit ('0' :: x :: rest))
  | input => (10,digitRun decimalDigit input)

-- Where strtol with base 16 and %x read their digits from: behind a 0x only
-- when a hex digit follows it.
def hexDigitsFrom : List Char → List Char
  | '0' :: x :: rest => if (x = 'x' ∨ x = 'X') ∧ ((rest.head?).bind hexDigit).isSome then rest else '0' :: x :: rest
  | input => input

-- %<width>x as bionic's vfscanf reads it: a sign, a 0x that a digit follows, and
-- hex digits, all within the width.
def hexField (width : Nat) (item : List Char) : Bool × List Nat × List Char :=
  let afterSign := (sign item).2
  let room := if afterSign.length < item.length then width - 1 else width
  let digitsFrom := if 3 ≤ room then hexDigitsFrom afterSign else afterSign
  let digits := (digitRun hexDigit (digitsFrom.take (room - (afterSign.length - digitsFrom.length)))).1
  ((sign item).1,digits,digitsFrom.drop digits.length)

-- What strtoul returns (ULONG_MAX out of range), kept in an unsigned field of
-- the given width.
def unsignedValue (bits : Nat) (negative : Bool) (magnitude : Nat) : Nat :=
  let value := if 2 ^ 64 ≤ magnitude then 2 ^ 64 - 1 else if negative then (2 ^ 64 - magnitude) % 2 ^ 64 else magnitude
  value % 2 ^ bits

-- What strtol returns (clamped to LONG_MIN .. LONG_MAX), kept in a field of
-- the given width.
def integerValue (bits : Nat) (negative : Bool) (magnitude : Nat) : Nat :=
  let value : Int := if negative then max (-(magnitude : Int)) (-2 ^ 63) else min (magnitude : Int) (2 ^ 63 - 1)
  (value % 2 ^ bits).toNat

-- strtol(text, &end, 16), kept in a field of the given width, and the text
-- from end on; with no digits end is the start of the text.
def strtolHex (bits : Nat) (text : List Char) : Nat × List Char :=
  let item := text.dropWhile isSpace
  match digitRun hexDigit (hexDigitsFrom (sign item).2) with
  | ([],_) => (0,text)
  | (digits,rest) => (integerValue bits (sign item).1 (digitsValue 16 digits),rest)

def hexDigitChar (n : Nat) : Char := if n < 10 then Char.ofNat ('0'.toNat + n) else Char.ofNat ('a'.toNat + n - 10)

def printHex02 (b : UInt8) : List Char := [hexDigitChar (b.toNat / 16),hexDigitChar (b.toNat % 16)]

end Numbers

-- A conversion that finds the input ended is an input failure; one that finds
-- no item a matching failure.
def Directive.run : Directive → List Char → Step
  | .space,input => .matched none (input.dropWhile isSpace)
  | .literal _,[] => .inputFailure
  | .literal c,d :: rest => if d = c then .matched none rest else .matchingFailure
  | .unsigned bits,input =>
    match input.dropWhile isSpace with
    | [] => .inputFailure
    | item =>
      match digitRun decimalDigit (sign item).2 with
      | ([],_) => .matchingFailure
      | (digits,rest) => .matched (some (.number (unsignedValue bits (sign item).1 (digitsValue 10 digits)))) rest
  | .integer bits,input =>
    match input.dropWhile isSpace with
    | [] => .inputFailure
    | item =>
      match baseDigits (sign item).2 with
      | (_,[],_) => .matchingFailure
      | (base,digits,rest) =>
        .matched (some (.number (integerValue bits (sign item).1 (digitsValue base digits)))) rest
  | .scanset width excluded,input =>
    match input with
    | [] => .inputFailure
    | _ =>
      let item := (input.takeWhile fun c => !excluded.contains c).take width
      if item.isEmpty then .matchingFailure else .matched (some (.text item)) (input.drop item.length)
  | .skipSet included,input =>
    match input with
    | [] => .inputFailure
    | _ =>
      let item := input.takeWhile fun c => included.contains c
      if item.isEmpty then .matchingFailure else .matched none (input.drop item.length)
  | .count,input => .matched none input
  | .hex width bits,input =>
    match input.dropWhile isSpace with
    | [] => .inputFailure
    | item =>
      match hexField width item with
      | (_,[],_) => .matchingFailure
      | (negative,digits,rest) => .matched (some (.number (unsignedValue bits negative (digitsValue 16 digits)))) rest
  | .char,[] => .inputFailure
  | .char,c :: rest => .matched (some (.text [c])) rest

def Directive.converts : Directive → Bool
  | .unsigned _ | .integer _ | .scanset _ _ | .skipSet _ | .hex _ _ | .char => true
  | _ => false

-- What sscanf leaves: its return value (EOF is -1), the values it assigned in
-- the order of the format, and what %n stored if it was reached.
structure Scanned where
  ret : Int
  values : List Value
  count : Option Nat

def scanLoop : List Directive → List Char → Nat → List Value → Option Nat → Bool → Scanned
  | [],_,_,values,count,_ => ⟨values.length,values,count⟩
  | d :: format,input,consumed,values,count,converted =>
    match d.run input with
    | .inputFailure => ⟨if converted then values.length else -1,values,count⟩
    | .matchingFailure => ⟨values.length,values,count⟩
    | .matched value rest =>
      scanLoop format rest (consumed + (input.length - rest.length)) (values ++ value.toList)
        (if d = .count then some consumed else count) (converted || d.converts)

def sscanf (text : List Char) (format : List Directive) : Scanned := scanLoop format (cString text) 0 [] none false

-- The variable of the i-th conversion after the call: its value if it was
-- assigned, what it held before otherwise.
def Scanned.number (scanned : Scanned) (i old : Nat) : Nat :=
  match scanned.values[i]? with
  | some (.number n) => n
  | _ => old

def Scanned.text (scanned : Scanned) (i : Nat) (old : List Char) : List Char :=
  match scanned.values[i]? with
  | some (.text chars) => chars
  | _ => old

section Hex

variable {c d : Char} {m n : Nat}

theorem isSome_of_hexDigit (hc : hexDigit c = some m) : (hexDigit c).isSome = true := by
  rw [hc]
  rfl

theorem isSpace_of_hexDigit (hc : hexDigit c = some m) : isSpace c = false := by
  have digit := isSome_of_hexDigit hc
  cases space : isSpace c
  · rfl
  · simp only [isSpace,Bool.or_eq_true,beq_iff_eq] at space
    rcases space with ((((rfl | rfl) | rfl) | rfl) | rfl) | rfl <;> exact absurd digit (by decide)

theorem sign_of_hexDigit (hc : hexDigit c = some m) (rest : List Char) : sign (c :: rest) = (false,c :: rest) := by
  have digit := isSome_of_hexDigit hc
  apply sign.eq_3
  · rintro _ ⟨⟩
    exact absurd digit (by decide)
  · rintro _ ⟨⟩
    exact absurd digit (by decide)

theorem hexDigitsFrom_of_hexDigit (hd : hexDigit d = some n) (rest : List Char) :
    hexDigitsFrom (c :: d :: rest) = c :: d :: rest := by
  have digit := isSome_of_hexDigit hd
  by_cases zero : c = '0'
  · subst zero
    rw [hexDigitsFrom.eq_1,if_neg]
    rintro ⟨rfl | rfl,-⟩ <;> exact absurd digit (by decide)
  · apply hexDigitsFrom.eq_2
    rintro _ _ ⟨⟩
    exact zero rfl

theorem strtolHex_pair (bits : Nat) (hc : hexDigit c = some m) (hd : hexDigit d = some n) :
    strtolHex bits [c,d] = (integerValue bits false (m * 16 + n),[]) := by
  unfold strtolHex
  simp [isSpace_of_hexDigit hc,sign_of_hexDigit hc,hexDigitsFrom_of_hexDigit hd,digitRun,hc,hd,digitsValue]

theorem hexField_pair (hc : hexDigit c = some m) (hd : hexDigit d = some n) (rest : List Char) :
    hexField 2 (c :: d :: rest) = (false,[m,n],rest) := by
  simp [hexField,sign_of_hexDigit hc,digitRun,hc,hd]

theorem run_hex_pair (bits : Nat) (hc : hexDigit c = some m) (hd : hexDigit d = some n) (rest : List Char) :
    Directive.run (.hex 2 bits) (c :: d :: rest) = .matched (some (.number (unsignedValue bits false (m * 16 + n)))) rest := by
  simp [Directive.run,isSpace_of_hexDigit hc,hexField_pair hc hd,digitsValue]

theorem hexDigit_hexDigitChar : ∀ n, n < 16 → hexDigit (hexDigitChar n) = some n
  | 0,_ | 1,_ | 2,_ | 3,_ | 4,_ | 5,_ | 6,_ | 7,_ | 8,_ | 9,_ | 10,_ | 11,_ | 12,_ | 13,_ | 14,_ | 15,_ => by decide
  | _ + 16,small => absurd small (by omega)

theorem printHex02_digits (b : UInt8) :
    ∃ high low, printHex02 b = [hexDigitChar high,hexDigitChar low] ∧ hexDigit (hexDigitChar high) = some high ∧
      hexDigit (hexDigitChar low) = some low ∧ high * 16 + low = b.toNat := by
  have small := b.toNat_lt
  refine ⟨b.toNat / 16,b.toNat % 16,rfl,hexDigit_hexDigitChar _ (by omega),hexDigit_hexDigitChar _ (by omega),by omega⟩

theorem isSpace_of_mem_printHex02 {b : UInt8} {c : Char} (mem : c ∈ printHex02 b) : isSpace c = false := by
  obtain ⟨high,low,printed,highDigit,lowDigit,-⟩ := printHex02_digits b
  rw [printed] at mem
  rcases mem with _ | ⟨_,_ | ⟨_,⟨⟩⟩⟩
  · exact isSpace_of_hexDigit highDigit
  · exact isSpace_of_hexDigit lowDigit

theorem hexDigit_of_mem_printHex02 {b : UInt8} {c : Char} (mem : c ∈ printHex02 b) : (hexDigit c).isSome = true := by
  obtain ⟨high,low,printed,highDigit,lowDigit,-⟩ := printHex02_digits b
  rw [printed] at mem
  rcases mem with _ | ⟨_,_ | ⟨_,⟨⟩⟩⟩
  · exact isSome_of_hexDigit highDigit
  · exact isSome_of_hexDigit lowDigit

@[simp] theorem length_printHex02 (b : UInt8) : (printHex02 b).length = 2 := rfl

theorem ne_nul_of_mem_printHex02 {b : UInt8} {c : Char} (mem : c ∈ printHex02 b) : c ≠ nul := by
  rintro rfl
  exact absurd (hexDigit_of_mem_printHex02 mem) (by decide)

theorem strtolHex_printHex02 (b : UInt8) : strtolHex 8 (printHex02 b) = (b.toNat,[]) := by
  obtain ⟨high,low,printed,highDigit,lowDigit,value⟩ := printHex02_digits b
  have small := b.toNat_lt
  rw [printed,strtolHex_pair 8 highDigit lowDigit,value]
  simp only [integerValue,Bool.false_eq_true,↓reduceIte,Prod.mk.injEq,and_true]
  omega

theorem run_hex_printHex02 (b : UInt8) (rest : List Char) :
    Directive.run (.hex 2 8) (printHex02 b ++ rest) = .matched (some (.number b.toNat)) rest := by
  obtain ⟨high,low,printed,highDigit,lowDigit,value⟩ := printHex02_digits b
  have small := b.toNat_lt
  rw [printed,List.cons_append,List.cons_append,List.nil_append,run_hex_pair 8 highDigit lowDigit,value]
  have fits : ¬2 ^ 64 ≤ b.toNat := by omega
  simp only [unsignedValue,Bool.false_eq_true,↓reduceIte,fits,Nat.mod_eq_of_lt small]

end Hex

theorem run_literal_same (c : Char) (rest : List Char) : Directive.run (.literal c) (c :: rest) = .matched none rest := by
  rw [Directive.run,if_pos rfl]

theorem scanLoop_matched {d : Directive} {input rest : List Char} {value : Option Value}
    (matched : d.run input = .matched value rest) (format : List Directive) (consumed : Nat) (values : List Value)
    (count : Option Nat) (converted : Bool) :
    scanLoop (d :: format) input consumed values count converted =
      scanLoop format rest (consumed + (input.length - rest.length)) (values ++ value.toList)
        (if d = .count then some consumed else count) (converted || d.converts) := by
  rw [scanLoop,matched]

end BluetoothStack.CString
