import Mathlib
import BluetoothStack.Osi.Config

namespace BluetoothStack.Osi

open Strip

section Reading

theorem trim_eq_strip (s : List Char) : trim s = strip isSpace s := rfl

theorem trimmedBuffer_of_not_all {s : List Char} (mixed : s.all isSpace = false) : trimmedBuffer s = rstrip isSpace s := by
  simp [trimmedBuffer,mixed,rstrip]

-- A line config_parse gets whole from one fgets: no '\n' or NUL in it, and
-- room for its '\n' in the buffer.
structure PlainLine (line : List Char) : Prop where
  noNewline : '\n' ∉ line
  noNul : '\x00' ∉ line
  short : line.length < maxBuf

theorem fgetsChunk_line (rest : List Char) :
    ∀ (line : List Char) (n : Nat), '\n' ∉ line → line.length < n → fgetsChunk n (line ++ '\n' :: rest) = (line ++ ['\n'],rest)
  | [],n + 1,_,_ => by simp [fgetsChunk]
  | c :: line,n + 1,noNewline,short => by
    have other : c ≠ '\n' := fun same => noNewline (same ▸ List.mem_cons_self)
    have later : '\n' ∉ line := fun mem => noNewline (List.mem_cons_of_mem _ mem)
    have read := fgetsChunk_line rest line n later (by simp at short; omega)
    simp [fgetsChunk,other,read]

theorem fgetsAll_of_ne_nil {input : List Char} (fuel : Nat) (held : input ≠ []) :
    fgetsAll (fuel + 1) input = (fgetsChunk maxBuf input).1 :: fgetsAll fuel (fgetsChunk maxBuf input).2 := by
  cases input with
  | nil => contradiction
  | cons c input => rfl

theorem fgetsAll_lines : ∀ (lines : List (List Char)) (fuel : Nat), (∀ line ∈ lines, PlainLine line) →
    lines.length ≤ fuel → fgetsAll fuel (lines.flatMap (· ++ ['\n'])) = lines.map (· ++ ['\n'])
  | [],fuel,_,_ => by cases fuel <;> rfl
  | line :: lines,fuel + 1,plain,enough => by
    have first := plain line List.mem_cons_self
    have read := fgetsChunk_line (lines.flatMap (· ++ ['\n'])) line maxBuf first.noNewline first.short
    have others := fgetsAll_lines lines fuel (fun line mem => plain line (List.mem_cons_of_mem _ mem))
      (by simp at enough; omega)
    rw [List.flatMap_cons,List.append_assoc,List.singleton_append,fgetsAll_of_ne_nil fuel (by simp),read,List.map_cons,
      others]

theorem length_le_flatMap_newline (lines : List (List Char)) : lines.length ≤ (lines.flatMap (· ++ ['\n'])).length := by
  induction lines with
  | nil => simp
  | cons line lines ih =>
    simp only [List.flatMap_cons,List.length_append,List.length_cons]
    omega

theorem cStr_of_noNul {s : List Char} (noNul : '\x00' ∉ s) : cStr s = s := by
  rw [cStr,List.takeWhile_eq_self_iff]
  intro c mem
  simpa using fun same : c = '\x00' => noNul (same ▸ mem)

theorem needsMore_newline {line : List Char} (short : line.length < maxBuf) :
    needsMore (trimmedBuffer (line ++ ['\n'])) = false := by
  cases spaces : (line ++ ['\n']).all isSpace with
  | true =>
    rw [trimmedBuffer,spaces,if_pos rfl,needsMore]
    by_cases full : (line ++ ['\n']).length = maxBuf
    · have last : (line ++ ['\n'])[maxBuf - 1]? = some '\n' := by
        simp only [List.length_append,List.length_singleton] at full
        rw [List.getElem?_append_right (by omega),show maxBuf - 1 - line.length = 0 by omega]
        rfl
      simp [last]
    · exact Bool.and_eq_false_iff.mpr (Or.inl (decide_eq_false full))
  | false =>
    rw [trimmedBuffer_of_not_all spaces,rstrip_append_of_pos line rfl,needsMore]
    have shorter := rstrip_length_le (p := isSpace) line
    simp only [Bool.and_eq_false_iff,decide_eq_false_iff_not]
    exact Or.inl (by omega)

theorem configParseChunks_lines : ∀ (lines : List (List Char)) (st : ParseState), (∀ line ∈ lines, PlainLine line) →
    configParseChunks (lines.map (· ++ ['\n'])) none st = lines.foldlM (fun st line => configParseLine st (trim line)) st
  | [],st,_ => rfl
  | line :: lines,st,plain => by
    have first := plain line List.mem_cons_self
    have cut : trim (line ++ ['\n']) = trim line := strip_append_of_pos line rfl
    simp only [List.map_cons,configParseChunks,cStr_of_noNul (s := line ++ ['\n']) (by simpa using first.noNul),
      needsMore_newline first.short,cut,Bool.false_eq_true,if_false,List.foldlM_cons]
    cases configParseLine st (trim line) with
    | none => rfl
    | some next => exact configParseChunks_lines lines next fun line mem => plain line (List.mem_cons_of_mem _ mem)

theorem configParse_lines {lines : List (List Char)} (config : Config) (plain : ∀ line ∈ lines, PlainLine line) :
    configParse (lines.flatMap (· ++ ['\n'])) config =
      (lines.foldlM (fun st line => configParseLine st (trim line)) ⟨configDefaultSection,false,config⟩).map (·.config) := by
  rw [configParse,fgetsAll_lines lines _ plain (length_le_flatMap_newline lines),configParseChunks_lines lines _ plain]

end Reading

section Lines

-- What config_parse needs to read a key, value and section name back: no '\n',
-- NUL, surrounding white space or '=' in a key, and lines that fit the buffer.
structure KeySaveable (key : List Char) : Prop where
  plain : '\n' ∉ key ∧ '\x00' ∉ key ∧ '=' ∉ key
  start : key.head? ≠ some '#' ∧ key.head? ≠ some '['
  trimmed : trim key = key

structure ValueSaveable (value : List Char) : Prop where
  plain : '\n' ∉ value ∧ '\x00' ∉ value
  trimmed : trim value = value

structure Entry.Saveable (entry : Entry) : Prop where
  key : KeySaveable entry.key
  value : ValueSaveable entry.value
  short : entry.key.length + entry.value.length + 3 < maxBuf

structure NameSaveable (name : List Char) : Prop where
  plain : '\n' ∉ name ∧ '\x00' ∉ name
  short : name.length + 2 < maxBuf

theorem idxOf?_append_cons {a : Char} {A : List Char} (B : List Char) (absent : a ∉ A) :
    (A ++ a :: B).idxOf? a = some A.length := by
  have others : ∀ x ∈ A, (x == a) = false := by
    intro x mem
    simpa using fun same : x = a => absent (same ▸ mem)
  rw [List.idxOf?,List.findIdx?_append,List.findIdx?_eq_none_iff.mpr (by simpa using others)]
  simp [List.findIdx?_cons]

theorem configParseLine_header (st : ParseState) {name : List Char} (short : name.length + 2 < maxBuf) :
    configParseLine st (trim (['['] ++ name ++ [']'])) = some ⟨name,false,st.config⟩ := by
  have trimmed : trim (['['] ++ name ++ [']']) = '[' :: (name ++ [']']) := by
    have kept := strip_around (p := isSpace) [] (name ++ [']']) (c := '[') rfl
    rw [rstrip_append_of_neg name [] (c := ']') rfl] at kept
    simpa [trim_eq_strip,lstrip,rstrip] using kept
  have closed : ('[' :: (name ++ [']'])).getLast? = some ']' := by
    rw [← List.cons_append,List.getLast?_append]
    rfl
  have fits : ¬1024 ≤ name.length := by
    simp only [maxBuf] at short
    omega
  rw [trimmed,configParseLine]
  simp [closed,fits]

theorem configParseLine_assignment (st : ParseState) {A : List Char} (B : List Char) (noEq : '=' ∉ A)
    (notComment : A.head? ≠ some '#') (notHeader : A.head? ≠ some '[') (reading : st.skipEntries = false) :
    configParseLine st (A ++ '=' :: B) =
      some ⟨st.sectionName,false,configSetString st.config st.sectionName (trim A) (trim B)⟩ := by
  have split := idxOf?_append_cons B noEq
  cases A with
  | nil =>
    simp only [List.nil_append] at split
    simp [configParseLine,reading,split]
  | cons a A =>
    simp only [List.head?_cons,ne_eq,Option.some.injEq] at notComment notHeader
    simp only [List.cons_append] at split
    simp [configParseLine,notComment,notHeader,reading,split]

theorem lstrip_key_head {key : List Char} (trimmed : trim key = key) :
    (lstrip isSpace (key ++ [' '])).head? = key.head? := by
  cases key with
  | nil => rfl
  | cons k key =>
    have solid : isSpace k = false := by
      have start := head_strip (p := isSpace) (k :: key)
      rw [← trim_eq_strip,trimmed] at start
      exact start k rfl
    rw [List.cons_append,lstrip,List.dropWhile_cons_of_neg (by simp [solid])]
    rfl

theorem configParseLine_entry (st : ParseState) {entry : Entry} (saveable : entry.Saveable)
    (reading : st.skipEntries = false) :
    configParseLine st (trim (cStr entry.key ++ [' ','=',' '] ++ cStr entry.value)) =
      some ⟨st.sectionName,false,configSetString st.config st.sectionName entry.key entry.value⟩ := by
  obtain ⟨⟨⟨-,keyNul,keyEq⟩,⟨notComment,notHeader⟩,keyTrimmed⟩,⟨⟨-,valueNul⟩,valueTrimmed⟩,-⟩ := saveable
  have around : trim (entry.key ++ [' ','=',' '] ++ entry.value) =
      lstrip isSpace (entry.key ++ [' ']) ++ '=' :: rstrip isSpace (' ' :: entry.value) := by
    have kept := strip_around (p := isSpace) (entry.key ++ [' ']) (' ' :: entry.value) (c := '=') rfl
    simpa [trim_eq_strip] using kept
  have noEq : '=' ∉ lstrip isSpace (entry.key ++ [' ']) := by
    intro mem
    have inLine := (List.dropWhile_sublist (p := isSpace) (l := entry.key ++ [' '])).subset mem
    simp only [List.mem_append,List.mem_singleton] at inLine
    exact inLine.elim keyEq (by decide)
  have keyBack : trim (lstrip isSpace (entry.key ++ [' '])) = entry.key := by
    rw [trim_eq_strip,strip_lstrip,strip_append_of_pos _ rfl,← trim_eq_strip,keyTrimmed]
  have valueBack : trim (rstrip isSpace (' ' :: entry.value)) = entry.value := by
    rw [trim_eq_strip,strip_rstrip,strip_cons_of_pos _ rfl,← trim_eq_strip,valueTrimmed]
  rw [cStr_of_noNul keyNul,cStr_of_noNul valueNul,around,
    configParseLine_assignment st _ noEq (by rwa [lstrip_key_head keyTrimmed]) (by rwa [lstrip_key_head keyTrimmed])
      reading,keyBack,valueBack]

end Lines

section Sections

theorem setEntry_fresh {key : List Char} (value : List Char) :
    ∀ {entries : List Entry}, key ∉ entries.map (·.key) → setEntry key value entries = entries ++ [⟨key,value⟩]
  | [],_ => rfl
  | entry :: entries,fresh => by
    simp only [List.map_cons,List.mem_cons,not_or] at fresh
    simp [setEntry,Ne.symm fresh.1,setEntry_fresh value fresh.2]

theorem setSection_fresh {name : List Char} (key value : List Char) :
    ∀ {sections : List Section}, name ∉ sections.map (·.name) →
      setSection name key value sections = sections ++ [⟨name,[⟨key,value⟩]⟩]
  | [],_ => rfl
  | sec :: sections,fresh => by
    simp only [List.map_cons,List.mem_cons,not_or] at fresh
    simp [setSection,Ne.symm fresh.1,setSection_fresh key value fresh.2]

theorem setSection_last {name : List Char} (key value : List Char) (entries : List Entry) :
    ∀ {sections : List Section}, name ∉ sections.map (·.name) →
      setSection name key value (sections ++ [⟨name,entries⟩]) = sections ++ [⟨name,setEntry key value entries⟩]
  | [],_ => by simp [setSection]
  | sec :: sections,fresh => by
    simp only [List.map_cons,List.mem_cons,not_or] at fresh
    simp [setSection,Ne.symm fresh.1,setSection_last key value entries fresh.2]

-- What config_parse can give back of a config: the sections that hold an
-- entry, as config.h says empty sections are treated as absent.
def withoutEmptySections (config : Config) : Config := ⟨config.sections.filter fun sec => !sec.entries.isEmpty⟩

structure Section.Saveable (sec : Section) : Prop where
  name : NameSaveable sec.name
  keys : (sec.entries.map (·.key)).Nodup
  entries : ∀ entry ∈ sec.entries, entry.Saveable

structure Config.Saveable (config : Config) : Prop where
  names : (config.sections.map (·.name)).Nodup
  sections : ∀ sec ∈ config.sections, sec.Saveable

theorem setSection_reading {name : List Char} {kept : List Section} (fresh : name ∉ kept.map (·.name))
    {pre : List Entry} {entry : Entry} (keyFresh : entry.key ∉ pre.map (·.key)) :
    setSection name entry.key entry.value (kept ++ [⟨name,pre⟩].filter fun sec => !sec.entries.isEmpty) =
      kept ++ [⟨name,pre ++ [entry]⟩].filter fun sec => !sec.entries.isEmpty := by
  cases pre with
  | nil => simp [setSection_fresh _ _ fresh]
  | cons first pre =>
    have listed : [(⟨name,first :: pre⟩ : Section)].filter (fun sec => !sec.entries.isEmpty) = [⟨name,first :: pre⟩] := rfl
    rw [listed,setSection_last _ _ _ fresh,setEntry_fresh _ keyFresh]
    rfl

theorem parse_entries {name : List Char} {kept : List Section} (fresh : name ∉ kept.map (·.name)) :
    ∀ (entries pre : List Entry), (∀ entry ∈ entries, entry.Saveable) → ((pre ++ entries).map (·.key)).Nodup →
      (entries.map fun entry => cStr entry.key ++ [' ','=',' '] ++ cStr entry.value).foldlM
          (fun st line => configParseLine st (trim line))
          ⟨name,false,⟨kept ++ [⟨name,pre⟩].filter fun sec => !sec.entries.isEmpty⟩⟩ =
        some ⟨name,false,⟨kept ++ [⟨name,pre ++ entries⟩].filter fun sec => !sec.entries.isEmpty⟩⟩
  | [],pre,_,_ => by simp
  | entry :: entries,pre,saveable,distinct => by
    have keyFresh : entry.key ∉ pre.map (·.key) := by
      intro mem
      simp only [List.map_append,List.map_cons] at distinct
      exact (List.nodup_append.mp distinct).2.2 _ mem _ List.mem_cons_self rfl
    have rest := parse_entries fresh entries (pre ++ [entry]) (fun entry mem => saveable entry (List.mem_cons_of_mem _ mem))
      (by simpa using distinct)
    rw [List.map_cons,List.foldlM_cons,configParseLine_entry _ (saveable entry List.mem_cons_self) rfl]
    simp only [Option.bind_eq_bind,Option.bind_some,configSetString,setSection_reading fresh keyFresh]
    simpa using rest

theorem parse_sections : ∀ (sections kept : List Section) (st : ParseState), (∀ sec ∈ sections, sec.Saveable) →
    ((kept ++ sections).map (·.name)).Nodup → st.config = ⟨kept⟩ →
      ∃ final, (saveLines ⟨sections⟩).foldlM (fun st line => configParseLine st (trim line)) st = some final ∧
        final.config = ⟨kept ++ sections.filter fun sec => !sec.entries.isEmpty⟩
  | [],kept,st,_,_,current => ⟨st,rfl,by simpa using current⟩
  | ⟨name,secEntries⟩ :: sections,kept,st,saveable,distinct,current => by
    have first := saveable _ List.mem_cons_self
    have fresh : name ∉ kept.map (·.name) := by
      intro mem
      simp only [List.map_append,List.map_cons] at distinct
      exact (List.nodup_append.mp distinct).2.2 _ mem _ List.mem_cons_self rfl
    have entries := parse_entries fresh secEntries [] first.entries (by simpa using first.keys)
    simp only [List.nil_append] at entries
    have header := configParseLine_header st first.name.short
    rw [current] at header
    -- The header, the entry lines and the blank line of this section.
    have sectionRead : (((['['] ++ name ++ [']']) :: secEntries.map fun entry : Entry =>
        cStr entry.key ++ [' ','=',' '] ++ cStr entry.value) ++ [[]]).foldlM
          (fun st line => configParseLine st (trim line)) st =
        some ⟨name,false,⟨kept ++ [⟨name,secEntries⟩].filter fun sec => !sec.entries.isEmpty⟩⟩ := by
      rw [List.foldlM_append,List.foldlM_cons,header]
      simp only [Option.bind_eq_bind,Option.bind_some]
      have emptyDropped : kept ++ [(⟨name,[]⟩ : Section)].filter (fun sec => !sec.entries.isEmpty) = kept := by simp
      rw [emptyDropped] at entries
      rw [entries]
      rfl
    have shorter : List.Sublist ((kept ++ [⟨name,secEntries⟩].filter (fun sec : Section => !sec.entries.isEmpty)) ++ sections)
        (kept ++ ⟨name,secEntries⟩ :: sections) := by
      rw [List.append_assoc]
      exact (List.filter_sublist.append (List.Sublist.refl sections)).append_left kept
    obtain ⟨final,read,config⟩ := parse_sections sections _
      ⟨name,false,⟨kept ++ [⟨name,secEntries⟩].filter fun sec => !sec.entries.isEmpty⟩⟩
      (fun sec mem => saveable sec (List.mem_cons_of_mem _ mem)) (distinct.sublist (shorter.map _)) rfl
    have lines : saveLines ⟨⟨name,secEntries⟩ :: sections⟩ = (((['['] ++ name ++ [']']) :: secEntries.map fun entry : Entry =>
        cStr entry.key ++ [' ','=',' '] ++ cStr entry.value) ++ [[]]) ++ saveLines ⟨sections⟩ := by
      simp [saveLines,cStr_of_noNul first.name.plain.2]
    refine ⟨final,?_,?_⟩
    · rw [lines,List.foldlM_append,sectionRead]
      exact read
    · rw [config,List.append_assoc,← List.filter_append]
      rfl

end Sections

section RoundTrip

theorem Section.Saveable.lines_plain {sec : Section} (saveable : sec.Saveable) :
    ∀ line ∈ (['['] ++ cStr sec.name ++ [']']) :: sec.entries.map (fun entry =>
      cStr entry.key ++ [' ','=',' '] ++ cStr entry.value) ++ [[]], PlainLine line := by
  intro line mem
  simp only [List.cons_append,List.mem_cons,List.mem_append,List.mem_map,List.not_mem_nil,or_false] at mem
  rcases mem with rfl | ⟨entry,listed,rfl⟩ | rfl
  · obtain ⟨⟨newline,nul⟩,short⟩ := saveable.name
    rw [cStr_of_noNul nul]
    exact ⟨by simpa using newline,by simpa using nul,by simpa using short⟩
  · obtain ⟨⟨⟨keyNewline,keyNul,-⟩,-,-⟩,⟨⟨valueNewline,valueNul⟩,-⟩,short⟩ := saveable.entries entry listed
    rw [cStr_of_noNul keyNul,cStr_of_noNul valueNul]
    refine ⟨by simp [keyNewline,valueNewline],by simp [keyNul,valueNul],?_⟩
    simp only [List.length_append,List.length_cons,List.length_nil]
    omega
  · exact ⟨List.not_mem_nil,List.not_mem_nil,by decide⟩

theorem saveLines_plain {config : Config} (saveable : config.Saveable) : ∀ line ∈ saveLines config, PlainLine line := by
  intro line mem
  obtain ⟨sec,listed,inSection⟩ := List.mem_flatMap.mp mem
  exact (saveable.sections sec listed).lines_plain line inSection

theorem config_round_trip {config : Config} (saveable : config.Saveable) :
    configParse (configSave config) configNewEmpty = some (withoutEmptySections config) := by
  obtain ⟨sections⟩ := config
  obtain ⟨final,read,result⟩ := parse_sections sections [] ⟨configDefaultSection,false,configNewEmpty⟩ saveable.sections
    (by simpa using saveable.names) rfl
  rw [configSave,configParse_lines configNewEmpty (saveLines_plain saveable),read,Option.map_some,result]
  rfl

end RoundTrip

section Invariant

theorem mem_setEntry {key value : List Char} : ∀ {entries : List Entry} {entry : Entry},
    entry ∈ setEntry key value entries → entry ∈ entries ∨ entry = ⟨key,value⟩
  | [],entry,mem => by
    simp only [setEntry,List.mem_singleton] at mem
    exact .inr mem
  | first :: entries,entry,mem => by
    unfold setEntry at mem
    split at mem
    · rename_i same
      rcases List.mem_cons.mp mem with rfl | later
      · exact .inr (by rw [same])
      · exact .inl (List.mem_cons_of_mem _ later)
    · rcases List.mem_cons.mp mem with rfl | later
      · exact .inl List.mem_cons_self
      · exact (mem_setEntry later).imp (List.mem_cons_of_mem _) id

theorem setEntry_nodup {key value : List Char} : ∀ {entries : List Entry}, (entries.map (·.key)).Nodup →
    ((setEntry key value entries).map (·.key)).Nodup
  | [],_ => by simp [setEntry]
  | first :: entries,distinct => by
    simp only [List.map_cons,List.nodup_cons] at distinct
    unfold setEntry
    split
    · simpa using distinct
    · rename_i other
      simp only [List.map_cons,List.nodup_cons]
      refine ⟨?_,setEntry_nodup distinct.2⟩
      intro mem
      obtain ⟨entry,listed,same⟩ := List.mem_map.mp mem
      rcases mem_setEntry listed with inside | rfl
      · exact distinct.1 (List.mem_map.mpr ⟨entry,inside,same⟩)
      · exact other same.symm

theorem mem_setSection {name key value : List Char} : ∀ {sections : List Section} {sec : Section},
    sec ∈ setSection name key value sections →
      sec ∈ sections ∨ ∃ entries, (⟨name,entries⟩ ∈ sections ∨ entries = []) ∧ sec = ⟨name,setEntry key value entries⟩
  | [],sec,mem => by
    simp only [setSection,List.mem_singleton] at mem
    exact .inr ⟨[],.inr rfl,mem⟩
  | first :: sections,sec,mem => by
    unfold setSection at mem
    split at mem
    · rename_i same
      rcases List.mem_cons.mp mem with rfl | later
      · refine .inr ⟨first.entries,.inl ?_,by rw [same]⟩
        rw [← same]
        exact List.mem_cons_self
      · exact .inl (List.mem_cons_of_mem _ later)
    · rcases List.mem_cons.mp mem with rfl | later
      · exact .inl List.mem_cons_self
      · rcases mem_setSection later with inside | ⟨entries,found,rfl⟩
        · exact .inl (List.mem_cons_of_mem _ inside)
        · exact .inr ⟨entries,found.imp (List.mem_cons_of_mem _) id,rfl⟩

theorem setSection_names {name key value : List Char} : ∀ (sections : List Section),
    (setSection name key value sections).map (·.name) =
      if name ∈ sections.map (·.name) then sections.map (·.name) else sections.map (·.name) ++ [name]
  | [] => by simp [setSection]
  | first :: sections => by
    unfold setSection
    split
    · rename_i same
      simp [same]
    · rename_i other
      simp only [List.map_cons,setSection_names sections,List.mem_cons,Ne.symm other,false_or]
      split <;> rfl

-- Where a setter writes: a saveable section name and key, with room on the
-- line for a value of room bytes.
structure SlotSaveable (sectionName key : List Char) (room : Nat) : Prop where
  header : NameSaveable sectionName
  keyed : KeySaveable key
  short : key.length + room + 3 < maxBuf

theorem SlotSaveable.entry {sectionName key value : List Char} {room : Nat} (slot : SlotSaveable sectionName key room)
    (saveable : ValueSaveable value) (fits : value.length ≤ room) : Entry.Saveable ⟨key,value⟩ :=
  ⟨slot.keyed,saveable,by
    show key.length + value.length + 3 < maxBuf
    have := slot.short
    omega⟩

theorem Section.Saveable.setEntry {name key value : List Char} {entries : List Entry} (named : NameSaveable name)
    (distinct : (entries.map (·.key)).Nodup) (saveable : ∀ entry ∈ entries, entry.Saveable)
    (entry : Entry.Saveable ⟨key,value⟩) : (⟨name,setEntry key value entries⟩ : Section).Saveable where
  name := named
  keys := setEntry_nodup distinct
  entries := by
    intro other mem
    rcases mem_setEntry mem with listed | rfl
    · exact saveable other listed
    · exact entry

theorem configSetString_saveable {config : Config} {name key value : List Char} (saveable : config.Saveable)
    (named : NameSaveable name) (entry : Entry.Saveable ⟨key,value⟩) : (configSetString config name key value).Saveable where
  names := by
    rw [configSetString,setSection_names]
    split
    · exact saveable.names
    · rename_i fresh
      refine List.nodup_append.mpr ⟨saveable.names,by simp,?_⟩
      intro other mem added single same
      rw [List.mem_singleton] at single
      exact fresh (single ▸ same ▸ mem)
  sections := by
    intro sec mem
    rcases mem_setSection mem with inside | ⟨entries,found,rfl⟩
    · exact saveable.sections sec inside
    · rcases found with found | rfl
      · have old := saveable.sections _ found
        exact Section.Saveable.setEntry named old.keys old.entries entry
      · exact Section.Saveable.setEntry named List.nodup_nil (by simp) entry

theorem removeKey_names {name key : List Char} :
    ∀ (sections : List Section), (removeKey name key sections).1.map (·.name) = sections.map (·.name)
  | [] => rfl
  | first :: sections => by
    unfold removeKey
    split
    · split <;> rfl
    · simp [removeKey_names sections]

theorem mem_removeKey {name key : List Char} : ∀ {sections : List Section} {sec : Section},
    sec ∈ (removeKey name key sections).1 → sec ∈ sections ∨ ∃ old ∈ sections, sec = ⟨old.name,old.entries.eraseP (·.key = key)⟩
  | [],_,mem => by simp [removeKey] at mem
  | first :: sections,sec,mem => by
    unfold removeKey at mem
    split at mem
    · split at mem
      · rcases List.mem_cons.mp mem with rfl | later
        · exact .inr ⟨first,List.mem_cons_self,rfl⟩
        · exact .inl (List.mem_cons_of_mem _ later)
      · exact .inl mem
    · rcases List.mem_cons.mp mem with rfl | later
      · exact .inl List.mem_cons_self
      · rcases mem_removeKey later with inside | ⟨old,listed,rfl⟩
        · exact .inl (List.mem_cons_of_mem _ inside)
        · exact .inr ⟨old,List.mem_cons_of_mem _ listed,rfl⟩

theorem Section.Saveable.eraseP {sec : Section} (saveable : sec.Saveable) (key : List Char) :
    (⟨sec.name,sec.entries.eraseP (·.key = key)⟩ : Section).Saveable where
  name := saveable.name
  keys := saveable.keys.sublist (List.eraseP_sublist.map _)
  entries := fun entry mem => saveable.entries entry (List.eraseP_sublist.subset mem)

theorem configRemoveKey_saveable {config : Config} (name key : List Char) (saveable : config.Saveable) :
    (configRemoveKey config name key).1.Saveable where
  names := by simpa [configRemoveKey,removeKey_names] using saveable.names
  sections := by
    intro sec mem
    rcases mem_removeKey mem with inside | ⟨old,listed,rfl⟩
    · exact saveable.sections sec inside
    · exact (saveable.sections old listed).eraseP key

theorem configRemoveSection_saveable {config : Config} (name : List Char) (saveable : config.Saveable) :
    (configRemoveSection config name).1.Saveable where
  names := saveable.names.sublist (List.eraseP_sublist.map _)
  sections := fun sec mem => saveable.sections sec (List.eraseP_sublist.subset mem)

end Invariant

section Values

theorem digit_solid {c : Char} (digit : c.isDigit = true) : isSpace c = false ∧ c ≠ '\x00' := by
  constructor
  · cases spaced : isSpace c with
    | false => rfl
    | true =>
      simp only [isSpace,Bool.or_eq_true,decide_eq_true_eq] at spaced
      rcases spaced with ((((rfl | rfl) | rfl) | rfl) | rfl) | rfl <;> exact absurd digit (by decide)
  · rintro rfl
    exact absurd digit (by decide)

theorem valueSaveable_of_solid {text : List Char} (solid : ∀ c ∈ text, isSpace c = false ∧ c ≠ '\x00') :
    ValueSaveable text where
  plain := ⟨fun mem => absurd (solid _ mem).1 (by decide),fun mem => (solid _ mem).2 rfl⟩
  trimmed := strip_of_forall_neg fun c mem => (solid c mem).1

theorem nat_toString_eq (n : Nat) : (toString n).toList = Nat.toDigits 10 n := by
  simp [toString,Nat.repr]

theorem int_toString_eq (i : Int) : (toString i).toList = (if i < 0 then ['-'] else []) ++ Nat.toDigits 10 i.natAbs := by
  cases i <;> simp [toString,Int.repr,Nat.repr]

theorem digits_solid (n : Nat) : ∀ c ∈ Nat.toDigits 10 n, isSpace c = false ∧ c ≠ '\x00' :=
  fun _ mem => digit_solid (Nat.isDigit_of_mem_toDigits (by decide) (by decide) mem)

theorem nat_valueSaveable (n : Nat) : ValueSaveable (toString n).toList := by
  rw [nat_toString_eq]
  exact valueSaveable_of_solid (digits_solid n)

theorem nat_length_le {n k : Nat} (small : n < 10 ^ k) (positive : 0 < k) : (toString n).toList.length ≤ k := by
  rw [nat_toString_eq]
  exact (Nat.length_toDigits_le_iff (by decide) positive).mpr small

theorem int_valueSaveable (i : Int) : ValueSaveable (toString i).toList := by
  rw [int_toString_eq]
  refine valueSaveable_of_solid fun c mem => ?_
  rcases List.mem_append.mp mem with sign | digit
  · split at sign
    · rw [List.mem_singleton.mp sign]
      decide
    · exact absurd sign List.not_mem_nil
  · exact digits_solid _ c digit

theorem int32_length_le (i : Int32) : (toString i.toInt).toList.length ≤ 11 := by
  have low := Int32.le_toInt i
  have high := Int32.toInt_lt i
  have digits := (Nat.length_toDigits_le_iff (b := 10) (k := 10) (n := i.toInt.natAbs) (by decide) (by decide)).mpr
    (by omega)
  rw [int_toString_eq,List.length_append]
  split <;> simp only [List.length_singleton,List.length_nil] <;> omega

-- config_set_string needs a saveable value in a slot with room for it, the typed
-- setters a slot with room for the longest value they write.
def ConfigCall.Saveable : ConfigCall → Prop
  | .setString sectionName key value => SlotSaveable sectionName key value.length ∧ ValueSaveable value
  | .setInt sectionName key _ => SlotSaveable sectionName key 11
  | .setUint16 sectionName key _ => SlotSaveable sectionName key 5
  | .setUint64 sectionName key _ => SlotSaveable sectionName key 20
  | .setBool sectionName key _ => SlotSaveable sectionName key 5
  | .removeKey .. | .removeSection _ => True

theorem configStep_saveable {config : Config} {call : ConfigCall} (saveable : config.Saveable) (allowed : call.Saveable) :
    (configStep config call).1.Saveable := by
  cases call with
  | setString sectionName key value =>
    obtain ⟨slot,text⟩ := allowed
    exact configSetString_saveable saveable slot.header (slot.entry text le_rfl)
  | setInt sectionName key value =>
    exact configSetString_saveable saveable allowed.header (allowed.entry (int_valueSaveable _) (int32_length_le value))
  | setUint16 sectionName key value =>
    have small : value.toNat < 10 ^ 5 := by
      have := value.toNat_lt
      omega
    exact configSetString_saveable saveable allowed.header
      (allowed.entry (nat_valueSaveable _) (nat_length_le small (by decide)))
  | setUint64 sectionName key value =>
    have small : value.toNat < 10 ^ 20 := by
      have := value.toNat_lt
      omega
    exact configSetString_saveable saveable allowed.header
      (allowed.entry (nat_valueSaveable _) (nat_length_le small (by decide)))
  | setBool sectionName key value =>
    have text : ValueSaveable (if value then "true" else "false").toList := by
      cases value <;> exact valueSaveable_of_solid (by simp [isSpace])
    exact configSetString_saveable saveable allowed.header (allowed.entry text (by cases value <;> decide))
  | removeKey sectionName key => exact configRemoveKey_saveable sectionName key saveable
  | removeSection sectionName => exact configRemoveSection_saveable sectionName saveable

theorem configRun_saveable (calls : List ConfigCall) (allowed : ∀ call ∈ calls, call.Saveable) :
    (configRun calls).Saveable := by
  -- The fold from any saveable config, by induction on the calls left.
  suffices ∀ (calls : List ConfigCall) (config : Config), config.Saveable → (∀ call ∈ calls, call.Saveable) →
      (calls.foldl (fun config call => (configStep config call).1) config).Saveable from
    this calls configNewEmpty ⟨List.nodup_nil,by simp [configNewEmpty]⟩ allowed
  intro calls
  induction calls with
  | nil => exact fun config saveable _ => saveable
  | cons call calls ih =>
    intro config saveable allowed
    exact ih _ (configStep_saveable saveable (allowed call List.mem_cons_self))
      fun call mem => allowed call (List.mem_cons_of_mem _ mem)

theorem configRun_round_trip (calls : List ConfigCall) (allowed : ∀ call ∈ calls, call.Saveable) :
    configParse (configSave (configRun calls)) configNewEmpty = some (withoutEmptySections (configRun calls)) :=
  config_round_trip (configRun_saveable calls allowed)

theorem configRun_round_trip_sample :
    (∀ call ∈ [ConfigCall.setBool "A".toList "k".toList true], call.Saveable) ∧
      configParse (configSave (configRun [.setBool "A".toList "k".toList true])) configNewEmpty =
        some (withoutEmptySections (configRun [.setBool "A".toList "k".toList true])) :=
  have allowed : ∀ call ∈ [ConfigCall.setBool "A".toList "k".toList true], call.Saveable := by
    intro call mem
    rw [List.mem_singleton.mp mem]
    exact ⟨⟨by decide,by decide⟩,⟨by decide,by decide,by decide⟩,by decide⟩
  ⟨allowed,configRun_round_trip _ allowed⟩

-- config_save writes a value's '\n' as a line break, and reading the file back
-- loses what follows it.
theorem config_set_string_keeps_newline :
    configRun [.setString "A".toList "k".toList "x\ny".toList] = ⟨[⟨"A".toList,[⟨"k".toList,"x\ny".toList⟩]⟩]⟩ ∧
      configParse (configSave (configRun [.setString "A".toList "k".toList "x\ny".toList])) configNewEmpty =
        some ⟨[⟨"A".toList,[⟨"k".toList,"x".toList⟩]⟩]⟩ ∧
      configParse (configSave (configRun [.setString "A".toList "k1".toList (List.replicate 1030 'v'),
          .setString "A".toList "k2".toList "w".toList])) configNewEmpty =
        some ⟨[⟨"A".toList,[⟨"k1".toList,List.replicate 1030 'v' ++ "k2 = w".toList⟩]⟩]⟩ :=
  ⟨by decide,by decide +kernel,by decide +kernel⟩

end Values

end BluetoothStack.Osi
