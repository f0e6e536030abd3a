import Mathlib.Data.List.Basic
import MarkupEditor.Toml.Reader
import MarkupEditor.Toml.Writer

/-!
# Reading what was written

Reading takes exactly what was written: booleans, strings without quotes and backslashes, and arrays
of such strings, whatever their number and hence their form. So a table that is written under its
header is read back with the same keys and values in the same order.
-/

namespace MarkupEditor.Toml

/-- What is written in parts that are not empty is long enough to count the parts. -/
theorem length_le_length_flatMap {α : Type} {write : α → Text} (hwrite : ∀ part, write part ≠ [])
    (parts : List α) : parts.length ≤ (parts.flatMap write).length := by
  induction parts with
  | nil => exact Nat.le_refl 0
  | cons part parts ih =>
      have hpart : 0 < (write part).length := List.length_pos_iff.mpr (hwrite part)
      rw [List.flatMap_cons, List.length_cons, List.length_append]
      omega

/-! ### Strings -/

/-- A text that stands between quotes as it is. -/
def Quotable (text : Text) : Prop :=
  text ≠ [] ∧ ∀ c ∈ text, isPlain c ∧ c ≠ '"' ∧ c ≠ '\\'

instance (text : Text) : Decidable (Quotable text) :=
  @instDecidableAnd _ _ inferInstance
    (List.decidableBAll (fun c => isPlain c ∧ c ≠ '"' ∧ c ≠ '\\') text)

section Strings

variable {text rest : Text} {depth : Nat}

theorem readBasic_cons {c : Char} (hquote : c ≠ '"') (hbackslash : c ≠ '\\') :
    readBasic (c :: rest) = if isPlain c then push (some c) (readBasic rest) else none := by
  rw [readBasic]
  · simp [hbackslash]
  all_goals simp [hquote, hbackslash]

theorem readBasic_append (hplain : ∀ c ∈ text, isPlain c ∧ c ≠ '"' ∧ c ≠ '\\') :
    readBasic (text ++ '"' :: rest) = some (text, rest) := by
  induction text with
  | nil => rfl
  | cons c text ih =>
      obtain ⟨hc, hquote, hbackslash⟩ := hplain c List.mem_cons_self
      have hrest := ih fun d hd => hplain d (List.mem_cons_of_mem c hd)
      rw [List.cons_append, readBasic_cons hquote hbackslash, if_pos hc, hrest, push]

theorem readValue_writeString (htext : Quotable text) :
    readValue (depth + 1) (writeString text ++ rest) = some (.string text, rest) := by
  obtain ⟨hne, hplain⟩ := htext
  cases text with
  | nil => contradiction
  | cons c text =>
      have hquote := (hplain c List.mem_cons_self).2.1
      have hread : readBasic (c :: text ++ '"' :: rest) = some (c :: text, rest) :=
        readBasic_append hplain
      have hwritten : writeString (c :: text) ++ rest = '"' :: (c :: text ++ '"' :: rest) := by
        simp [writeString]
      rw [hwritten, List.cons_append, readValue]
      · rw [← List.cons_append, hread]
        rfl
      · simp [hquote]

theorem readValue_writeBoolean (value : Bool) :
    readValue (depth + 1) (writeBoolean value ++ '\n' :: rest) =
      some (.boolean value, '\n' :: rest) := by
  cases value with
  | false => rfl
  | true => rfl

end Strings

/-! ### Arrays -/

section Arrays

variable {items : List Text} {item rest : Text} {depth : Nat}
  {readItem : Text → Option (Setting × Text)}

theorem dropFiller_newline (text : Text) :
    dropFiller false ('\n' :: text) = dropFiller false text := by
  rw [dropFiller]

/-- A line of an array that is written on several lines. -/
def writeItem (item : Text) : Text :=
  "    ".toList ++ writeString item ++ ",\n".toList

theorem dropFiller_writeItem :
    dropFiller false (writeItem item ++ rest) = some (writeString item ++ ',' :: '\n' :: rest) := by
  have hwritten : writeItem item ++ rest =
      ' ' :: ' ' :: ' ' :: ' ' :: '"' :: (item ++ '"' :: ',' :: '\n' :: rest) := by
    simp [writeItem, writeString]
  rw [hwritten]
  simp [dropFiller, isBlank, writeString]

theorem readItems_newline (count : Nat) (text : Text) :
    readItems readItem count ('\n' :: text) = readItems readItem count text := by
  cases count with
  | zero => rfl
  | succ count => rw [readItems, readItems, dropFiller_newline]

/-- What is behind an item says whether there may be more of them. -/
theorem readItems_of_read {count : Nat} {front text behind : Text} {setting : Setting}
    (htext : dropFiller false front = some text) (hstart : text.head? ≠ some ']')
    (hread : readItem text = some (setting, behind)) :
    readItems readItem (count + 1) front = (do
      match ← dropFiller false behind with
      | ']' :: rest => return ([setting], rest)
      | ',' :: rest =>
        let (items, rest) ← readItems readItem count rest
        return (setting :: items, rest)
      | _ => none) := by
  rw [readItems, htext, Option.bind_eq_bind, Option.bind_some]
  split
  · contradiction
  · rw [hread]
    rfl

theorem readItems_writeItems (hitems : ∀ item ∈ items, Quotable item) {count : Nat}
    (hcount : items.length < count) :
    readItems (readValue (depth + 1)) count (items.flatMap writeItem ++ ']' :: rest) =
      some (items.map .string, rest) := by
  induction items generalizing count with
  | nil =>
      cases count with
      | zero => contradiction
      | succ count => rfl
  | cons item items ih =>
      cases count with
      | zero => contradiction
      | succ count =>
          have hitem : Quotable item := hitems item List.mem_cons_self
          have hbehind := ih (fun item hmem => hitems item (List.mem_cons_of_mem _ hmem))
            (Nat.lt_of_succ_lt_succ hcount)
          have hread : readValue (depth + 1) (writeString item ++
              ',' :: '\n' :: (items.flatMap writeItem ++ ']' :: rest)) =
                some (.string item, ',' :: '\n' :: (items.flatMap writeItem ++ ']' :: rest)) :=
            readValue_writeString hitem
          rw [List.flatMap_cons, List.append_assoc,
            readItems_of_read dropFiller_writeItem (by simp [writeString]) hread]
          -- behind the comma stands the line feed that ends the line of the item
          change (readItems (readValue (depth + 1)) count ('\n' :: (items.flatMap writeItem ++
            ']' :: rest)) >>= fun (items, rest) => some (.string item :: items, rest)) = _
          rw [readItems_newline, hbehind]
          rfl

theorem readItems_single {count : Nat} (hitem : Quotable item) :
    readItems (readValue (depth + 1)) (count + 1) (writeString item ++ ']' :: rest) =
      some ([.string item], rest) := by
  have hread : readValue (depth + 1) (writeString item ++ ']' :: rest) =
      some (.string item, ']' :: rest) := readValue_writeString hitem
  rw [readItems_of_read rfl (by simp [writeString]) hread]
  rfl

theorem readValue_bracket (text : Text) :
    readValue (depth + 1) ('[' :: text) =
      (readItems (readValue depth) text.length text).map fun (items, rest) =>
        (.list items, rest) := by
  rw [readValue]

theorem readValue_writeStrings (hitems : ∀ item ∈ items, Quotable item) :
    readValue (depth + 2) (writeStrings items ++ rest) =
      some (.list (items.map .string), rest) := by
  match items with
  | [] => rfl
  | [item] =>
      have hwritten : writeStrings [item] ++ rest = '[' :: (writeString item ++ ']' :: rest) := by
        simp [writeStrings]
      have hlength : (writeString item ++ ']' :: rest).length = item.length + rest.length + 3 := by
        simp [writeString]
        omega
      rw [hwritten, readValue_bracket, hlength, readItems_single (hitems item List.mem_cons_self)]
      rfl
  | first :: second :: items =>
      have hform : writeStrings (first :: second :: items) =
          "[\n".toList ++ (first :: second :: items).flatMap writeItem ++ [']'] := rfl
      have hwritten : writeStrings (first :: second :: items) ++ rest =
          '[' :: '\n' :: ((first :: second :: items).flatMap writeItem ++ ']' :: rest) := by
        rw [hform, List.append_assoc, List.append_assoc]
        rfl
      have hcount : (first :: second :: items).length ≤
          ((first :: second :: items).flatMap writeItem).length :=
        length_le_length_flatMap (fun _ => List.cons_ne_nil _ _) _
      rw [hwritten, readValue_bracket, readItems_newline, readItems_writeItems hitems]
      · rfl
      · simp only [List.length_cons, List.length_append] at hcount ⊢
        omega

end Arrays

/-! ### Bindings -/

/-- A key that is written without quotes. -/
def Bare (key : Text) : Prop :=
  key ≠ [] ∧ ∀ c ∈ key, isKeyChar c

instance (key : Text) : Decidable (Bare key) :=
  @instDecidableAnd _ _ inferInstance (List.decidableBAll (fun c => isKeyChar c = true) key)

/-- Reading takes exactly the value from the front of a line, whatever the next lines are. -/
structure Written (value : Text) (setting : Setting) : Prop where
  start : ∃ c behind, value = c :: behind ∧ isBlank c = false
  read (depth : Nat) (rest : Text) :
    readValue (depth + 2) (value ++ '\n' :: rest) = some (setting, '\n' :: rest)

theorem written_writeBoolean (value : Bool) : Written (writeBoolean value) (.boolean value) where
  start := by cases value <;> exact ⟨_, _, rfl, rfl⟩
  read _ _ := readValue_writeBoolean value

theorem written_writeStrings {items : List Text} (hitems : ∀ item ∈ items, Quotable item) :
    Written (writeStrings items) (.list (items.map .string)) where
  start :=
    match items with
    | [] | [_] | _ :: _ :: _ => ⟨_, _, rfl, rfl⟩
  read _ _ := readValue_writeStrings hitems

structure Binding where
  key : Text
  value : Text
  setting : Setting
  bare : Bare key
  written : Written value setting

namespace Binding

def text (binding : Binding) : Text :=
  writeBinding binding.key binding.value

def entry (binding : Binding) : Text × Node :=
  (binding.key, .value binding.setting)

end Binding

section Bindings

variable {key rest : Text} {parts : Nat}

theorem Bare.exists_cons (hkey : Bare key) :
    ∃ c tail, key = c :: tail ∧ isKeyChar c = true := by
  obtain ⟨hne, hchars⟩ := hkey
  cases key with
  | nil => contradiction
  | cons c tail => exact ⟨c, tail, rfl, hchars c List.mem_cons_self⟩

theorem ne_of_isKeyChar {c d : Char} (hc : isKeyChar c = true) (hd : isKeyChar d = false) :
    c ≠ d := by
  rintro rfl
  rw [hc] at hd
  contradiction

theorem readKey_bare (hkey : Bare key) (hrest : ∀ c ∈ rest.head?, isKeyChar c = false) :
    readKey (key ++ rest) = some (key, rest) := by
  obtain ⟨c, tail, rfl, hc⟩ := hkey.exists_cons
  have htake : (c :: tail ++ rest).takeWhile isKeyChar = c :: tail := by
    rw [List.takeWhile_append_of_pos hkey.2]
    cases rest with
    | nil => simp
    | cons d rest => simp [hrest d rfl]
  have hdrop : (c :: tail ++ rest).dropWhile isKeyChar = rest := by
    rw [List.dropWhile_append_of_pos hkey.2]
    cases rest with
    | nil => rfl
    | cons d rest => simp [hrest d rfl]
  rw [readKey]
  · rw [htake, hdrop]
    rfl
  · rintro rest hquote
    exact ne_of_isKeyChar hc rfl (List.cons.inj hquote).1
  · rintro rest hquote
    exact ne_of_isKeyChar hc rfl (List.cons.inj hquote).1

theorem dropBlanks_cons {c : Char} (hc : isBlank c = false) (rest : Text) :
    dropBlanks (c :: rest) = c :: rest := by
  simp [dropBlanks, hc]

theorem isBlank_of_isKeyChar {c : Char} (hc : isKeyChar c = true) : isBlank c = false := by
  have hspace : c ≠ ' ' := ne_of_isKeyChar hc rfl
  have htab : c ≠ '\t' := ne_of_isKeyChar hc rfl
  simp [isBlank, hspace, htab]

/-- A key that is not dotted. -/
theorem readPath_bare {c : Char} {behind : Text} (hparts : 0 < parts) (hkey : Bare key)
    (hrest : ∀ c ∈ rest.head?, isKeyChar c = false) (hbehind : dropBlanks rest = c :: behind)
    (hdot : c ≠ '.') :
    readPath parts (key ++ rest) = some (([], key), c :: behind) := by
  cases parts with
  | zero => contradiction
  | succ parts =>
      have hread := readKey_bare hkey hrest
      obtain ⟨d, tail, rfl, hd⟩ := hkey.exists_cons
      have hstart : dropBlanks (d :: tail ++ rest) = d :: tail ++ rest :=
        dropBlanks_cons (isBlank_of_isKeyChar hd) _
      rw [readPath, hstart, hread, Option.bind_eq_bind, Option.bind_some]
      dsimp only
      rw [hbehind]
      split
      · rename_i hcons
        exact absurd (List.cons.inj hcons).1 hdot
      · rfl

theorem Binding.exists_text_append (binding : Binding) (rest : Text) :
    ∃ c behind, binding.text ++ rest = c :: behind ∧ isKeyChar c = true := by
  obtain ⟨c, tail, hkey, hc⟩ := binding.bare.exists_cons
  refine ⟨c, tail ++ " = ".toList ++ binding.value ++ ['\n'] ++ rest, ?_, hc⟩
  rw [Binding.text, writeBinding, hkey]
  rfl

theorem readBinding_text (binding : Binding) (depth : Nat) (rest : Text) :
    readBinding (readValue (depth + 2)) (binding.text ++ rest) =
      some (([], binding.key, binding.setting), '\n' :: rest) := by
  obtain ⟨c, value, hvalue, hc⟩ := binding.written.start
  have hwritten : binding.text ++ rest =
      binding.key ++ ' ' :: '=' :: ' ' :: (binding.value ++ '\n' :: rest) := by
    simp [Binding.text, writeBinding]
  have hlength : 0 < (binding.text ++ rest).length :=
    List.length_pos_iff.mpr (by simp [hwritten])
  have hkeyEnd : ∀ c ∈ (' ' :: '=' :: ' ' :: (binding.value ++ '\n' :: rest)).head?,
      isKeyChar c = false := by
    simp
    rfl
  have hblanks : dropBlanks (' ' :: (binding.value ++ '\n' :: rest)) =
      binding.value ++ '\n' :: rest := by
    rw [hvalue]
    exact dropBlanks_cons hc _
  rw [hwritten] at hlength ⊢
  rw [readBinding, readPath_bare hlength binding.bare hkeyEnd rfl (by decide),
    Option.bind_eq_bind, Option.bind_some]
  change (readValue (depth + 2) (dropBlanks (' ' :: (binding.value ++ '\n' :: rest))) >>=
    fun result => some (([], binding.key, result.1), result.2)) = _
  rw [hblanks, binding.written.read]
  rfl

end Bindings

/-! ### Tables -/

/-- A document whose only header has opened a table with these entries. -/
def tableDraft (name : Text) (entries : Entries) : Draft :=
  ⟨[(name, .table .header entries)], [name]⟩

section Tables

variable {name rest : Text} {entries : Entries} {bindings : List Binding} {draft next : Draft}
  {lines : Nat}

theorem assignUnder_tableDraft {binding : Binding}
    (hfresh : entries.lookup binding.key = none) :
    assignUnder [name] [] binding.key binding.setting (tableDraft name entries).entries =
      some (tableDraft name (entries ++ [binding.entry])).entries := by
  have hinner : assign [] binding.key binding.setting entries =
      some (entries ++ [binding.entry]) := by
    rw [assign, descend, bind, hfresh]
    rfl
  have hname : [(name, Node.table .header entries)].lookup name =
      some (.table .header entries) := by
    simp
  rw [assignUnder, tableDraft, descend, hname]
  dsimp only
  rw [if_neg (by decide), descend, hinner]
  simp [tableDraft, Entries.put]

theorem readLine_text {binding : Binding} (hfresh : entries.lookup binding.key = none) :
    readLine (tableDraft name entries) (binding.text ++ rest) =
      some (tableDraft name (entries ++ [binding.entry]), '\n' :: rest) := by
  obtain ⟨c, behind, hbehind, hc⟩ := binding.exists_text_append rest
  have hlength : 2 ≤ (binding.text ++ rest).length := by
    simp [Binding.text, writeBinding]
    omega
  obtain ⟨depth, hdepth⟩ := Nat.exists_eq_add_of_le' hlength
  have hread := readBinding_text binding depth rest
  rw [← hdepth] at hread
  have hbracket : c ≠ '[' := ne_of_isKeyChar hc rfl
  rw [readLine]
  · rw [hread, Option.bind_eq_bind, Option.bind_some]
    change (assignUnder [name] [] binding.key binding.setting (tableDraft name entries).entries >>=
      fun entries => some ({ tableDraft name [] with entries := entries }, '\n' :: rest)) = _
    rw [assignUnder_tableDraft hfresh]
    rfl
  · rw [hbehind]
    exact fun _ hcons => hbracket (List.cons.inj hcons).1
  · rw [hbehind]
    exact fun _ hcons => hbracket (List.cons.inj hcons).1

theorem readLine_writeHeader (hname : Bare name) :
    readLine ⟨[], []⟩ (writeHeader name ++ rest) = some (tableDraft name [], '\n' :: rest) := by
  obtain ⟨c, tail, hcons, hc⟩ := hname.exists_cons
  have hwritten : writeHeader name ++ rest = '[' :: (name ++ ']' :: '\n' :: rest) := by
    simp [writeHeader]
  have hlength : 0 < (name ++ ']' :: '\n' :: rest).length := List.length_pos_iff.mpr (by simp)
  have hnameEnd : ∀ c ∈ (']' :: '\n' :: rest).head?, isKeyChar c = false := by
    simp
    rfl
  have hpath : readPath (name ++ ']' :: '\n' :: rest).length (name ++ ']' :: '\n' :: rest) =
      some (([], name), ']' :: '\n' :: rest) :=
    readPath_bare hlength hname hnameEnd rfl (by decide)
  rw [hwritten, readLine]
  · rw [hpath]
    rfl
  · rw [hcons]
    exact fun _ hbrackets => ne_of_isKeyChar hc rfl (List.cons.inj hbrackets).1

theorem readLines_newline (text : Text) :
    readLines lines draft ('\n' :: text) = readLines lines draft text := by
  cases lines with
  | zero => rfl
  | succ lines => rw [readLines, readLines, dropFiller_newline]

/-- A line that is no filler, with a line feed behind what is read of it. -/
theorem readLines_of_readLine {c : Char} {text : Text}
    (hstart : dropFiller false (c :: text) = some (c :: text))
    (hread : readLine draft (c :: text) = some (next, '\n' :: rest)) :
    readLines (lines + 1) draft (c :: text) = readLines lines next rest := by
  rw [readLines, hstart, Option.bind_eq_bind, Option.bind_some]
  dsimp only
  rw [hread]
  exact readLines_newline rest

theorem dropFiller_isKeyChar {c : Char} (hc : isKeyChar c = true) (text : Text) :
    dropFiller false (c :: text) = some (c :: text) := by
  have hnewline : c ≠ '\n' := ne_of_isKeyChar hc rfl
  have hreturn : c ≠ '\r' := ne_of_isKeyChar hc rfl
  have hhash : c ≠ '#' := ne_of_isKeyChar hc rfl
  rw [dropFiller]
  · rw [isBlank_of_isKeyChar hc]
    rfl
  · exact hnewline
  · exact fun _ hc _ => hreturn hc
  · exact hhash

/-- Each line adds its binding to the table that the header has opened. -/
theorem readLines_bindings (hlines : bindings.length < lines)
    (hkeys : (bindings.map Binding.key).Nodup)
    (hfresh : ∀ binding ∈ bindings, entries.lookup binding.key = none) :
    readLines lines (tableDraft name entries) (bindings.flatMap Binding.text) =
      some (tableDraft name (entries ++ bindings.map Binding.entry)) := by
  induction bindings generalizing lines entries with
  | nil =>
      cases lines with
      | zero => contradiction
      | succ lines =>
          rw [List.map_nil, List.append_nil]
          rfl
  | cons binding bindings ih =>
      cases lines with
      | zero => contradiction
      | succ lines =>
          rw [List.map_cons, List.nodup_cons] at hkeys
          have hread : readLine (tableDraft name entries)
              (binding.text ++ bindings.flatMap Binding.text) = _ :=
            readLine_text (hfresh binding List.mem_cons_self)
          -- each key is written once, so the later ones are still free in the longer table
          have hrest : ∀ later ∈ bindings,
              (entries ++ [binding.entry]).lookup later.key = none := by
            intro later hlater
            have hne : (later.key == binding.key) = false := by
              rw [beq_eq_false_iff_ne]
              intro hsame
              exact hkeys.1 (hsame ▸ List.mem_map_of_mem hlater)
            rw [List.lookup_append, hfresh later (List.mem_cons_of_mem _ hlater), Binding.entry,
              List.lookup_cons, hne]
            rfl
          obtain ⟨c, behind, hbehind, hc⟩ :=
            binding.exists_text_append (bindings.flatMap Binding.text)
          rw [List.flatMap_cons, hbehind]
          rw [hbehind] at hread
          rw [readLines_of_readLine (dropFiller_isKeyChar hc _) hread,
            ih (Nat.lt_of_succ_lt_succ hlines) hkeys.2 hrest, List.append_assoc, List.map_cons,
            List.singleton_append]

theorem entriesToSettings_map_entry (bindings : List Binding) :
    entriesToSettings (bindings.map Binding.entry) =
      bindings.map fun binding => (binding.key, binding.setting) := by
  induction bindings with
  | nil => rfl
  | cons binding bindings ih =>
      rw [List.map_cons, List.map_cons, ← ih]
      rfl

/-- **Written tables.** A table that is written under its header, with each key once, is read back
as the only table of the document, with the same keys and values in the same order. -/
theorem read?_writeHeader (hname : Bare name) (hkeys : (bindings.map Binding.key).Nodup) :
    read? (writeHeader name ++ bindings.flatMap Binding.text) =
      some (.table [(name,
        .table (bindings.map fun binding => (binding.key, binding.setting)))]) := by
  have hlength : bindings.length ≤ (bindings.flatMap Binding.text).length :=
    length_le_length_flatMap (fun _ => by simp [Binding.text, writeBinding]) bindings
  have hread : readLine ⟨[], []⟩ (writeHeader name ++ bindings.flatMap Binding.text) = _ :=
    readLine_writeHeader hname
  have hlines : bindings.length <
      (writeHeader name ++ bindings.flatMap Binding.text).length := by
    simp only [writeHeader, List.length_append, List.length_cons]
    omega
  have hmark : dropMark (writeHeader name ++ bindings.flatMap Binding.text) =
      writeHeader name ++ bindings.flatMap Binding.text := rfl
  have hdraft : readLines ((writeHeader name ++ bindings.flatMap Binding.text).length + 1) ⟨[], []⟩
      (writeHeader name ++ bindings.flatMap Binding.text) =
        some (tableDraft name (bindings.map Binding.entry)) := by
    -- the bracket of the header is no filler
    refine (readLines_of_readLine rfl hread).trans ?_
    exact readLines_bindings hlines hkeys fun _ _ => rfl
  rw [read?, hmark, hdraft, Option.map_some, tableDraft, ← entriesToSettings_map_entry]
  rfl

end Tables

end MarkupEditor.Toml
