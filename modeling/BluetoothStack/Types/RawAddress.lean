import BluetoothStack.Lib.CString
import BluetoothStack.Lib.Strip

namespace BluetoothStack

open CString

-- The six bytes of a Bluetooth device address, in the order they are written.
structure RawAddress where
  address : List UInt8
  length : address.length = 6
deriving DecidableEq

namespace RawAddress

def kEmpty : RawAddress := ⟨[0,0,0,0,0,0],rfl⟩

def toString (a : RawAddress) : List Char := [':'].intercalate (a.address.map printHex02)

-- base::SplitString(from, ":", base::TRIM_WHITESPACE, base::SPLIT_WANT_ALL).
def splitString (text : List Char) : List (List Char) := (text.splitOn ':').map (Strip.strip isSpace)

-- The loop over the byte tokens: each has two characters, and strtol reads
-- up to the end of it.
def parseTokens : List (List Char) → Option (List UInt8)
  | [] => some []
  | token :: tokens =>
    if token.length ≠ 2 then none
    else
      let (value,temp) := strtolHex 8 token
      if peek temp ≠ nul then none else (parseTokens tokens).map (value.toUInt8 :: ·)

theorem length_parseTokens {tokens : List (List Char)} {bytes : List UInt8} :
    parseTokens tokens = some bytes → bytes.length = tokens.length := by
  induction tokens generalizing bytes with
  | nil =>
    rintro ⟨⟩
    rfl
  | cons token tokens ih =>
    simp only [parseTokens]
    split_ifs
    · nofun
    · nofun
    · intro parsed
      obtain ⟨rest,restParsed,rfl⟩ := Option.map_eq_some_iff.mp parsed
      rw [List.length_cons,List.length_cons,ih restParsed]

def newAddr (text : List Char) : Option RawAddress :=
  if text.length ≠ 17 then none
  else
    let byteTokens := splitString text
    if six : byteTokens.length = 6 then
      match parsed : parseTokens byteTokens with
      | some bytes => some ⟨bytes,(length_parseTokens parsed).trans six⟩
      | none => none
    else none

def fromString (text : List Char) (target : RawAddress) : Bool × RawAddress :=
  match newAddr text with
  | some newAddr => (true,newAddr)
  | none => (false,target)

-- The address tmp does not change the result.
def isValidAddress (address : List Char) : Bool := (fromString address kEmpty).1

section RoundTrip

theorem parseTokens_printHex02 (bytes : List UInt8) : parseTokens (bytes.map printHex02) = some bytes := by
  induction bytes with
  | nil => rfl
  | cons b bytes ih =>
    have pair : (printHex02 b).length = 2 := rfl
    rw [List.map_cons,parseTokens,if_neg (not_not.mpr pair)]
    simp only [strtolHex_printHex02,peek,List.headD_nil,ne_eq,not_true_eq_false,↓reduceIte,ih,Option.map_some,
      UInt8.ofNat_toNat,Nat.toUInt8]

theorem splitString_toString (a : RawAddress) : splitString a.toString = a.address.map printHex02 := by
  have noColon : ∀ token ∈ a.address.map printHex02, ':' ∉ token := by
    intro token mem colon
    obtain ⟨b,-,rfl⟩ := List.mem_map.mp mem
    exact absurd (hexDigit_of_mem_printHex02 colon) (by decide)
  have nonempty : a.address.map printHex02 ≠ [] := by
    rw [Ne,List.map_eq_nil_iff]
    intro empty
    have six := a.length
    rw [empty] at six
    cases six
  rw [splitString,toString,List.splitOn_intercalate ':' noColon nonempty,List.map_map]
  apply List.map_congr_left
  intro b _
  exact Strip.strip_of_forall_neg fun _ => isSpace_of_mem_printHex02

theorem length_toString (a : RawAddress) : a.toString.length = 17 := by
  obtain ⟨address,six⟩ := a
  match address,six with
  | [_,_,_,_,_,_],_ => rfl

theorem newAddr_toString (a : RawAddress) : newAddr a.toString = some a := by
  have parsed : parseTokens (splitString a.toString) = some a.address := by
    rw [splitString_toString,parseTokens_printHex02]
  have six : (splitString a.toString).length = 6 := by
    rw [splitString_toString,List.length_map,a.length]
  unfold newAddr
  simp only [length_toString,ne_eq,not_true_eq_false,↓reduceIte,six,↓reduceDIte]
  split
  · next bytes same =>
    rw [parsed] at same
    cases same
    rfl
  · next missing =>
    rw [parsed] at missing
    cases missing

theorem fromString_toString (a target : RawAddress) : fromString a.toString target = (true,a) := by
  rw [fromString,newAddr_toString]

end RoundTrip

-- strtol takes a sign in front of one hex digit, so a token that is not two
-- hex digits passes and the address does not print back as the text read.
theorem fromString_accepts_sign (target : RawAddress) :
    isValidAddress "+1:00:00:00:00:00".toList = true ∧
      fromString "+1:00:00:00:00:00".toList target = (true,⟨[1,0,0,0,0,0],rfl⟩) ∧
      toString ⟨[1,0,0,0,0,0],rfl⟩ = "01:00:00:00:00:00".toList := by
  have accepted : newAddr "+1:00:00:00:00:00".toList = some ⟨[1,0,0,0,0,0],rfl⟩ := by decide
  refine ⟨?_,?_,by decide⟩
  · rw [isValidAddress,fromString,accepted]
  · rw [fromString,accepted]

end RawAddress

end BluetoothStack
