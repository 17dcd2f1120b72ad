import BluetoothStack.Lib.Strip

namespace BluetoothStack.Osi

-- entry_t, section_t and config_t over std::string, taken as its bytes; a
-- byte is a Char below 256.
structure Entry where
  key : List Char
  value : List Char
deriving DecidableEq, Repr

structure Section where
  name : List Char
  entries : List Entry
deriving DecidableEq, Repr

structure Config where
  sections : List Section
deriving DecidableEq, Repr

def configNewEmpty : Config := ⟨[]⟩

def configDefaultSection : List Char := "Global".toList

section Mutations

-- The first entry of the key takes the value, else a new entry goes at the end.
def setEntry (key value : List Char) : List Entry → List Entry
  | [] => [⟨key,value⟩]
  | entry :: rest => if entry.key = key then ⟨entry.key,value⟩ :: rest else entry :: setEntry key value rest

-- A section not found is added at the end and gets the entry.
def setSection (sectionName key value : List Char) : List Section → List Section
  | [] => [⟨sectionName,[⟨key,value⟩]⟩]
  | sec :: rest =>
    if sec.name = sectionName then ⟨sec.name,setEntry key value sec.entries⟩ :: rest
    else sec :: setSection sectionName key value rest

-- config_set_string. value_no_newline, the value cut at its first '\n', is
-- computed and never used: the entry takes value as given.
def configSetString (config : Config) (sectionName key value : List Char) : Config :=
  ⟨setSection sectionName key value config.sections⟩

def configSetInt (config : Config) (sectionName key : List Char) (value : Int32) : Config :=
  configSetString config sectionName key (toString value.toInt).toList

def configSetUint16 (config : Config) (sectionName key : List Char) (value : UInt16) : Config :=
  configSetString config sectionName key (toString value.toNat).toList

def configSetUint64 (config : Config) (sectionName key : List Char) (value : UInt64) : Config :=
  configSetString config sectionName key (toString value.toNat).toList

def configSetBool (config : Config) (sectionName key : List Char) (value : Bool) : Config :=
  configSetString config sectionName key (if value then "true" else "false").toList

def configRemoveSection (config : Config) (sectionName : List Char) : Config × Bool :=
  (⟨config.sections.eraseP (·.name = sectionName)⟩,config.sections.any (·.name = sectionName))

-- The first section of the name loses the first entry of the key; the
-- section stays even when it is left empty.
def removeKey (sectionName key : List Char) : List Section → List Section × Bool
  | [] => ([],false)
  | sec :: rest =>
    if sec.name = sectionName then
      if sec.entries.any (·.key = key) then (⟨sec.name,sec.entries.eraseP (·.key = key)⟩ :: rest,true)
      else (sec :: rest,false)
    else
      let (rest,removed) := removeKey sectionName key rest
      (sec :: rest,removed)

def configRemoveKey (config : Config) (sectionName key : List Char) : Config × Bool :=
  let (sections,removed) := removeKey sectionName key config.sections
  (⟨sections⟩,removed)

-- The mutations a config goes through; the void setters answer true.
inductive ConfigCall where
  | setString (sectionName key value : List Char)
  | setInt (sectionName key : List Char) (value : Int32)
  | setUint16 (sectionName key : List Char) (value : UInt16)
  | setUint64 (sectionName key : List Char) (value : UInt64)
  | setBool (sectionName key : List Char) (value : Bool)
  | removeKey (sectionName key : List Char)
  | removeSection (sectionName : List Char)
deriving DecidableEq, Repr

def configStep (config : Config) : ConfigCall → Config × Bool
  | .setString sectionName key value => (configSetString config sectionName key value,true)
  | .setInt sectionName key value => (configSetInt config sectionName key value,true)
  | .setUint16 sectionName key value => (configSetUint16 config sectionName key value,true)
  | .setUint64 sectionName key value => (configSetUint64 config sectionName key value,true)
  | .setBool sectionName key value => (configSetBool config sectionName key value,true)
  | .removeKey sectionName key => configRemoveKey config sectionName key
  | .removeSection sectionName => configRemoveSection config sectionName

def configRun (calls : List ConfigCall) : Config :=
  calls.foldl (fun config call => (configStep config call).1) configNewEmpty

end Mutations

section Save

-- What fprintf's %s writes of a std::string: c_str() up to its first NUL.
def cStr (s : List Char) : List Char := s.takeWhile (· ≠ '\x00')

-- The lines config_save writes, each ended by '\n': per section its header,
-- a line per entry, and the blank line of fputc('\n').
def saveLines (config : Config) : List (List Char) :=
  config.sections.flatMap fun sec =>
    (['['] ++ cStr sec.name ++ [']']) :: sec.entries.map (fun entry => cStr entry.key ++ [' ','=',' '] ++ cStr entry.value) ++
      [[]]

def configSave (config : Config) : List Char := (saveLines config).flatMap (· ++ ['\n'])

end Save

section Parse

def maxBuf : Nat := 1023

-- fgets(line, sizeof(line), fp): up to MAX_BUF bytes, through the first
-- '\n'.
def fgetsChunk : Nat → List Char → List Char × List Char
  | 0,input => ([],input)
  | _ + 1,[] => ([],[])
  | n + 1,c :: rest =>
    if c = '\n' then (['\n'],rest)
    else
      let (chunk,rest) := fgetsChunk n rest
      (c :: chunk,rest)

-- What the successive fgets calls return until the end of the file; each
-- takes at least a byte, so the file's length is fuel enough.
def fgetsAll : Nat → List Char → List (List Char)
  | 0,_ => []
  | _ + 1,[] => []
  | fuel + 1,input@(_ :: _) =>
    let (chunk,rest) := fgetsChunk maxBuf input
    chunk :: fgetsAll fuel rest

def isSpace (c : Char) : Bool :=
  c = ' ' || c = '\t' || c = '\n' || c = '\x0b' || c = '\x0c' || c = '\r'

-- A char compared with EOF: char is signed, so the byte 0xFF equals -1.
def isEof (c : Char) : Bool := c.toNat = 255

def trim (str : List Char) : List Char := ((str.dropWhile isSpace).reverse.dropWhile isSpace).reverse

-- What trim leaves in the buffer itself: cut after its last byte that is
-- not white space, or untouched when it is all white space.
def trimmedBuffer (str : List Char) : List Char :=
  if str.all isSpace then str else (str.reverse.dropWhile isSpace).reverse

-- The line was cut by fgets: after trim the buffer still holds MAX_BUF bytes
-- and its last is neither EOF nor '\n'.
def needsMore (line : List Char) : Bool :=
  line.length = maxBuf && (line)[maxBuf - 1]?.all fun c => !isEof c && c ≠ '\n'

-- The reassembly loop stops after a piece that is empty, or ends in '\n' or
-- EOF after trim.
def endsLine (line : List Char) : Bool :=
  line.isEmpty || line.getLast?.any fun c => c = '\n' || isEof c

structure ParseState where
  sectionName : List Char
  skipEntries : Bool
  config : Config

-- The body of config_parse's loop for the line line_ptr points to. A
-- section name of 1024 bytes or more is copied past section[1024].
def configParseLine (st : ParseState) (line : List Char) : Option ParseState :=
  match line with
  | [] => some st
  | '#' :: _ => some st
  | '[' :: _ =>
    if line.getLast? ≠ some ']' then some ⟨st.sectionName,true,st.config⟩
    else if line.length - 2 ≥ 1024 then none
    else some ⟨(line.drop 1).take (line.length - 2),false,st.config⟩
  | _ =>
    if st.skipEntries then some st
    else
      match line.idxOf? '=' with
      | none => some st
      | some split =>
        some ⟨st.sectionName,st.skipEntries,
          configSetString st.config st.sectionName (trim (line.take split)) (trim (line.drop (split + 1)))⟩

-- config_parse over the chunks fgets returns; lineNew is line_new while a cut
-- line is reassembled.
def configParseChunks : List (List Char) → Option (List Char) → ParseState → Option ParseState
  | [],none,st => some st
  | [],some lineNew,st => configParseLine st lineNew
  | raw :: rest,none,st =>
    let line := cStr raw
    if needsMore (trimmedBuffer line) then configParseChunks rest (some (trim line)) st
    else (configParseLine st (trim line)).bind (configParseChunks rest none)
  | raw :: rest,some lineNew,st =>
    let line := cStr raw
    let lineNew := lineNew ++ trim line
    if endsLine (trimmedBuffer line) then (configParseLine st lineNew).bind (configParseChunks rest none)
    else configParseChunks rest (some lineNew) st

def configParse (text : List Char) (config : Config) : Option Config :=
  (configParseChunks (fgetsAll text.length text) none ⟨configDefaultSection,false,config⟩).map (·.config)

end Parse

end BluetoothStack.Osi
