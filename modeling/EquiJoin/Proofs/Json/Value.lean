import EquiJoin.Json.Names
import EquiJoin.Proofs.Json.Skip

/-!
# The form of values

A type travels lawfully (`Wire.Lawful`) if its reader accepts exactly the texts of one form, as the
values that they stand for, and if what is written for a value has that form.  Texts, truth values,
ordinals, lists and named alternatives do.  What is accepted as a whole payload follows for every
lawful type at once (`decode_eq_ok_iff`), and so does the round trip (`decode_encode`).
-/

set_option autoImplicit false

namespace EquiJoin.Json

open Utf8 (ofChars ofChars_cons ofChars_append)

/-- The reader accepts exactly the texts of a form, with blanks in front. -/
structure Reader.Exact {α : Type} (reader : Reader α) (Form : List UInt8 → α → Prop) : Prop where
  sound {bytes rest : List UInt8} {value : α} : reader.read bytes = .ok (value, rest) →
    ∃ blanks text, Blanks blanks ∧ Form text value ∧ bytes = blanks ++ (text ++ rest)
  complete {blanks text rest : List UInt8} {value : α} : Blanks blanks → Form text value →
    Ends rest → reader.read (blanks ++ (text ++ rest)) = .ok (value, rest)
  begins {text : List UInt8} {value : α} : Form text value →
    ∃ byte others, text = byte :: others ∧ Begins byte

def Layout.Blank (layout : Layout) : Prop :=
  (∀ depth, Blanks (ofChars (layout.line depth))) ∧ Blanks (ofChars layout.gap)

/-- The type travels in one form in both directions. -/
structure Wire.Lawful {α : Type} (wire : Wire α) (Form : List UInt8 → α → Prop) : Prop extends
    wire.reader.Exact Form where
  written {layout : Layout} (blank : layout.Blank) (depth : Nat) (value : α) :
    Form (ofChars ((wire.document value).write layout depth)) value

theorem blank_compact : Layout.compact.Blank :=
  ⟨fun _ => blanks_nil, blanks_nil⟩

theorem blanks_replicate (count : Nat) : Blanks (ofChars (List.replicate count ' ')) := by
  induction count with
  | zero => exact blanks_nil
  | succ count ih =>
      rw [List.replicate_succ, ofChars_cons]
      apply Blanks.append ?_ ih
      intro byte member
      rw [List.mem_singleton.mp member]
      decide

theorem blank_pretty : Layout.pretty.Blank := by
  constructor
  · intro depth
    rw [Layout.pretty, ofChars_cons]
    apply Blanks.append ?_ (blanks_replicate _)
    intro byte member
    rw [List.mem_singleton.mp member]
    decide
  · exact blanks_replicate 1

theorem readText_eq_of_literal {blanks : List UInt8} (blank : Blanks blanks) (rest : List UInt8) :
    readText (blanks ++ 0x22 :: rest) = readLiteral rest := by
  rw [readText, skipBlanks_solid blank (by decide)]
  rfl

theorem text_lawful : (inferInstance : Wire String).Lawful TextLiteral where
  sound := by
    intro bytes rest value run
    change readText bytes = _ at run
    unfold readText at run
    split at run
    · next found =>
        obtain ⟨blanks, blank, shape⟩ := eq_of_skipBlanks found
        obtain ⟨body, form, rfl⟩ := textLiteral_of_readLiteral run
        exact ⟨blanks, 0x22 :: body, blank, form, shape⟩
    · cases run
  complete := by
    intro blanks text rest value blank form _
    obtain ⟨body, rfl⟩ := form.eq_cons
    exact (readText_eq_of_literal blank (body ++ rest)).trans
      (readLiteral_of_textLiteral form rest)
  begins := by
    intro text value form
    obtain ⟨body, rfl⟩ := form.eq_cons
    exact ⟨0x22, body, rfl, by decide, by decide⟩
  written _ _ value := textLiteral_literal value

inductive FlagText : List UInt8 → Bool → Prop where
  | yes : FlagText (0x74 :: trueTail) true
  | no : FlagText (0x66 :: falseTail) false

theorem flag_lawful : (inferInstance : Wire Bool).Lawful FlagText where
  sound := by
    intro bytes rest value run
    change readFlag bytes = _ at run
    unfold readFlag at run
    split at run
    · next found =>
        obtain ⟨blanks, blank, shape⟩ := eq_of_skipBlanks found
        obtain ⟨after, lettersRun, answer⟩ := bind_eq_ok run
        cases answer
        rw [readLetters_eq_ok_iff.mp lettersRun] at shape
        exact ⟨blanks, _, blank, .yes, shape⟩
    · next found =>
        obtain ⟨blanks, blank, shape⟩ := eq_of_skipBlanks found
        obtain ⟨after, lettersRun, answer⟩ := bind_eq_ok run
        cases answer
        rw [readLetters_eq_ok_iff.mp lettersRun] at shape
        exact ⟨blanks, _, blank, .no, shape⟩
    · cases run
  complete := by
    intro blanks text rest value blank form _
    change readFlag _ = _
    cases form with
    | yes =>
        rw [readFlag, List.cons_append, skipBlanks_solid blank (by decide)]
        change (readLetters trueTail (trueTail ++ rest) >>= fun rest => pure (true, rest)) = _
        rw [readLetters_eq_ok_iff.mpr rfl]
        rfl
    | no =>
        rw [readFlag, List.cons_append, skipBlanks_solid blank (by decide)]
        change (readLetters falseTail (falseTail ++ rest) >>= fun rest => pure (false, rest)) = _
        rw [readLetters_eq_ok_iff.mpr rfl]
        rfl
  begins := by
    intro text value form
    cases form <;> exact ⟨_, _, rfl, by decide, by decide⟩
  written _ _ value := by
    cases value with
    | true => exact .yes
    | false => exact .no

theorem ordinal_lawful : (inferInstance : Wire UInt32).Lawful OrdinalText where
  sound run := ordinalText_of_readOrdinal run
  complete blank form ends := readOrdinal_of_ordinalText blank form ends
  begins := by
    intro text value form
    obtain ⟨digit, others, shape, isDigit⟩ := form.1.head
    have starts : startsNumber digit = true := by simp [startsNumber, isDigit]
    exact ⟨digit, others, shape, (begins_of_startsNumber starts).1⟩
  written _ _ value := ordinalText_toDigits value

/-! ## Lists -/

section Lists

variable {α : Type} {Form : List UInt8 → α → Prop}

def ListText (Form : List UInt8 → α → Prop) (text : List UInt8) (values : List α) : Prop :=
  ∃ body, Entries 0x5D Form true body values ∧ text = 0x5B :: body

theorem Reader.Exact.entry {item : Reader α} (exact : item.Exact Form) {first : Bool}
    {lead text rest : List UInt8} {value : α} (leads : Lead first lead) (form : Form text value)
    (ends : Ends rest) : listTurn first (lead ++ (text ++ rest)) = .ok (.entry (text ++ rest)) ∧
      item.read (text ++ rest) = .ok (value, rest) := by
  obtain ⟨byte, tail, shape, solid, notClosing⟩ := exact.begins form
  have turn := listTurn_entry leads solid notClosing (tail ++ rest)
  rw [← List.cons_append, ← shape] at turn
  exact ⟨turn, exact.complete blanks_nil form ends⟩

theorem entries_of_readItems {item : Reader α} (exact : item.Exact Form) {first : Bool}
    {bytes rest : List UInt8} {values : List α}
    (run : readItems item first bytes = .ok (values, rest)) :
    ∃ body, Entries 0x5D Form first body values ∧ bytes = body ++ rest := by
  fun_induction readItems item first bytes generalizing values with
  | case1 => cases run
  | case2 first bytes after turn =>
      cases run
      obtain ⟨blanks, blank, rfl⟩ := eq_of_listTurn_closed turn
      exact ⟨blanks ++ [0x5D], .close blank, by simp⟩
  | case3 => cases run
  | case4 first bytes entry turn value after itemRun ih =>
      obtain ⟨⟨others, behind⟩, othersRun, answer⟩ := bind_eq_ok run
      cases answer
      obtain ⟨lead, leads, rfl⟩ := eq_of_listTurn_entry turn
      obtain ⟨blanks, text, blank, form, rfl⟩ := exact.sound itemRun
      obtain ⟨body, entries, rfl⟩ := ih othersRun
      exact ⟨_, .entry (leads.append blank) form entries, by simp⟩

theorem readItems_eq (item : Reader α) (first : Bool) (bytes : List UInt8) :
    readItems item first bytes = (do
      match ← listTurn first bytes with
      | .closed rest => return ([], rest)
      | .entry entry =>
          let (value, rest) ← item.read entry
          let (values, rest) ← readItems item false rest
          return (value :: values, rest)) := by
  rw [readItems]
  split
  · next failed => rw [failed]; rfl
  · next closed => rw [closed]; rfl
  · next opened =>
      rw [opened]
      split
      · next failed => simp only [bind, Except.bind, failed]
      · next found => simp only [bind, Except.bind, found]

theorem readItems_of_entry {item : Reader α} {first : Bool} {bytes entry after rest : List UInt8}
    {value : α} {values : List α} (turn : listTurn first bytes = .ok (.entry entry))
    (itemRun : item.read entry = .ok (value, after))
    (othersRun : readItems item false after = .ok (values, rest)) :
    readItems item first bytes = .ok (value :: values, rest) := by
  rw [readItems_eq, turn]
  simp only [bind, Except.bind, itemRun, othersRun]
  rfl

theorem readItems_of_entries {item : Reader α} (exact : item.Exact Form) {first : Bool}
    {body : List UInt8} {values : List α} (entries : Entries 0x5D Form first body values)
    (rest : List UInt8) : readItems item first (body ++ rest) = .ok (values, rest) := by
  induction entries with
  | close blank =>
      rw [List.append_assoc, readItems_eq, List.singleton_append, listTurn_closed blank rest]
      rfl
  | @entry first lead text others value values leads form entries ih =>
      -- What stands behind an item is a comma or the bracket, so it cuts no numeral short.
      obtain ⟨turn, itemRun⟩ := exact.entry leads form (entries.ends (by decide) rest)
      simp only [List.append_assoc]
      exact readItems_of_entry turn itemRun ih

theorem entries_enclose {ι : Type} {Entry : List UInt8 → α → Prop} {layout : Layout}
    (blank : layout.Blank) (depth : Nat) (opening closing : Char) {closingByte : UInt8}
    (closes : ofChars [closing] = [closingByte]) (write : ι → List Char) (value : ι → α)
    (written : ∀ item, Entry (ofChars (write item)) (value item)) (items : List ι) :
    ∃ body, Entries closingByte Entry true body (items.map value) ∧
      ofChars (layout.enclose depth opening closing (items.map write)) =
        ofChars [opening] ++ body := by
  have behind : ∀ items : List ι, Entries closingByte Entry false
      (ofChars ((items.map write).flatMap (fun entry => ',' :: layout.line (depth + 1) ++ entry) ++
        layout.line depth ++ [closing])) (items.map value) := by
    intro items
    induction items with
    | nil =>
        rw [List.map_nil, List.flatMap_nil, List.nil_append, ofChars_append, closes]
        exact .close (blank.1 depth)
    | cons item items ih =>
        have lead := Lead.next blanks_nil (blank.1 (depth + 1))
        have entry := Entries.entry lead (written item) ih
        simp only [List.map_cons, List.flatMap_cons, List.append_assoc, List.cons_append,
          ofChars_cons, ofChars_append, List.nil_append] at entry ⊢
        exact entry
  cases items with
  | nil => exact ⟨[closingByte], .close blanks_nil, by rw [← closes, ← ofChars_append]; rfl⟩
  | cons item items =>
      refine ⟨_, .entry (.first (blank.1 (depth + 1))) (written item) (behind items), ?_⟩
      simp only [List.map_cons, Layout.enclose, List.append_assoc, List.cons_append,
        ofChars_append, ofChars_cons]
      rfl

theorem writeItems_eq_map (layout : Layout) (depth : Nat) (wire : Wire α) (values : List α) :
    Document.writeItems layout depth (values.map wire.document) =
      values.map fun value => (wire.document value).write layout depth := by
  induction values with
  | nil => rfl
  | cons value values ih =>
      rw [List.map_cons, List.map_cons, ← ih]
      rfl

theorem list_lawful [wire : Wire α] (item : wire.Lawful Form) :
    (inferInstance : Wire (List α)).Lawful (ListText Form) where
  sound := by
    intro bytes rest values run
    change readList wire.reader bytes = _ at run
    unfold readList at run
    split at run
    · next found =>
        obtain ⟨blanks, blank, shape⟩ := eq_of_skipBlanks found
        obtain ⟨body, entries, rfl⟩ := entries_of_readItems item.toExact run
        exact ⟨blanks, 0x5B :: body, blank, ⟨body, entries, rfl⟩, shape⟩
    · cases run
  complete := by
    rintro blanks text rest values blank ⟨body, entries, rfl⟩ _
    change readList wire.reader _ = _
    rw [readList, List.cons_append, skipBlanks_solid blank (by decide)]
    exact readItems_of_entries item.toExact entries rest
  begins := by
    rintro text values ⟨body, _, rfl⟩
    exact ⟨0x5B, body, rfl, by decide, by decide⟩
  written := by
    intro layout blank depth values
    obtain ⟨body, entries, shape⟩ := entries_enclose blank depth '[' ']' rfl
      (fun value => (wire.document value).write layout (depth + 1)) id
      (item.written blank (depth + 1)) values
    rw [List.map_id] at entries
    refine ⟨body, entries, ?_⟩
    change ofChars (layout.enclose depth '[' ']'
      (Document.writeItems layout (depth + 1) (values.map wire.document))) = _
    rw [writeItems_eq_map, shape]
    rfl

end Lists

/-! ## Named alternatives -/

/-- The form of a named alternative: one of its names, alone or as the key of null. -/
inductive NameText {α : Type} (names : List (String × α)) : List UInt8 → α → Prop where
  | plain {text : List UInt8} {name : String} {value : α} :
      (name, value) ∈ names → TextLiteral text name → NameText names text value
  | key {before text gap blanks after : List UInt8} {name : String} {value : α} :
      (name, value) ∈ names → Blanks before → TextLiteral text name → Blanks gap →
        Blanks blanks → Blanks after →
          NameText names (0x7B :: (before ++ (text ++ (gap ++ 0x3A :: (blanks ++
            (0x6E :: nullTail ++ (after ++ [0x7D]))))))) value

theorem mem_of_lookup {α : Type} {names : List (String × α)} {name : String} {value : α}
    (found : names.lookup name = some value) : (name, value) ∈ names := by
  induction names with
  | nil => cases found
  | cons entry names ih =>
      rw [List.lookup_cons] at found
      split at found
      · next same =>
          cases found
          rw [beq_iff_eq.mp same]
          exact List.mem_cons_self
      · exact List.mem_cons_of_mem _ (ih found)

theorem lookup_of_mem {α : Type} {names : List (String × α)}
    (distinct : (names.map Prod.fst).Nodup) {name : String} {value : α}
    (listed : (name, value) ∈ names) : names.lookup name = some value := by
  induction names with
  | nil => cases listed
  | cons entry names ih =>
      rw [List.map_cons, List.nodup_cons] at distinct
      rw [List.lookup_cons]
      rcases List.mem_cons.mp listed with same | later
      · rw [← same, beq_self_eq_true]
      · have different : (name == entry.1) = false := by
          rw [beq_eq_false_iff_ne]
          intro same
          exact distinct.1 (List.mem_map.mpr ⟨_, later, same⟩)
        rw [different]
        exact ih distinct.2 later

section Names

variable {α : Type} [Named α]

theorem readName_of_textLiteral (distinct : ((Named.names (α := α)).map Prod.fst).Nodup)
    {text : List UInt8} {name : String} {value : α} (listed : (name, value) ∈ Named.names)
    (form : TextLiteral (0x22 :: text) name) (rest : List UInt8) :
    readName α (text ++ rest) = .ok (value, rest) := by
  rw [readName, readLiteral_of_textLiteral form rest]
  simp only [bind, Except.bind, lookup_of_mem distinct listed]
  rfl

theorem textLiteral_of_readName {bytes rest : List UInt8} {value : α}
    (run : readName α bytes = .ok (value, rest)) :
    ∃ name text, (name, value) ∈ Named.names ∧ TextLiteral (0x22 :: text) name ∧
      bytes = text ++ rest := by
  obtain ⟨⟨name, after⟩, literalRun, answer⟩ := bind_eq_ok run
  obtain ⟨text, form, shape⟩ := textLiteral_of_readLiteral literalRun
  dsimp only at answer
  split at answer
  · next found =>
      cases answer
      exact ⟨name, text, mem_of_lookup found, form, shape⟩
  · cases answer

theorem readNull_of_blanks {blanks : List UInt8} (blank : Blanks blanks) (rest : List UInt8) :
    readNull (blanks ++ (0x6E :: nullTail ++ rest)) = .ok rest := by
  rw [readNull, List.cons_append, skipBlanks_solid blank (by decide)]
  exact readLetters_eq_ok_iff.mpr rfl

theorem eq_of_readNull {bytes rest : List UInt8} (run : readNull bytes = .ok rest) :
    ∃ blanks, Blanks blanks ∧ bytes = blanks ++ (0x6E :: nullTail ++ rest) := by
  unfold readNull at run
  split at run
  · next found =>
      obtain ⟨blanks, blank, shape⟩ := eq_of_skipBlanks found
      rw [readLetters_eq_ok_iff.mp run] at shape
      exact ⟨blanks, blank, shape⟩
  · cases run

theorem nameText_of_readOnlyKey {bytes rest : List UInt8} {value : α}
    (run : readOnlyKey α bytes = .ok (value, rest)) :
    ∃ text, NameText Named.names (0x7B :: text) value ∧ bytes = text ++ rest := by
  unfold readOnlyKey at run
  split at run
  · cases run
  · cases run
  · next found =>
      obtain ⟨before, blankBefore, shape⟩ := eq_of_skipBlanks found
      obtain ⟨⟨read, afterName⟩, nameRun, keyed⟩ := bind_eq_ok run
      obtain ⟨afterColon, colonRun, valued⟩ := bind_eq_ok keyed
      obtain ⟨afterNull, nullRun, closed⟩ := bind_eq_ok valued
      obtain ⟨name, text, listed, form, rfl⟩ := textLiteral_of_readName nameRun
      obtain ⟨gap, blankGap, rfl⟩ := eq_of_readColon colonRun
      obtain ⟨blanks, blank, rfl⟩ := eq_of_readNull nullRun
      split at closed
      · cases closed
      · next behind =>
          cases closed
          obtain ⟨after, blankAfter, rfl⟩ := eq_of_skipBlanks behind
          exact ⟨_, .key listed blankBefore form blankGap blank blankAfter, by rw [shape]; simp⟩
      · cases closed
  · cases run

theorem readOnlyKey_of_parts (distinct : ((Named.names (α := α)).map Prod.fst).Nodup)
    {before text gap blanks after rest : List UInt8} {name : String} {value : α}
    (listed : (name, value) ∈ Named.names) (blankBefore : Blanks before)
    (form : TextLiteral text name) (blankGap : Blanks gap) (blank : Blanks blanks)
    (blankAfter : Blanks after) :
    readOnlyKey α (before ++ (text ++ (gap ++ 0x3A :: (blanks ++
      (0x6E :: nullTail ++ (after ++ 0x7D :: rest)))))) = .ok (value, rest) := by
  obtain ⟨body, rfl⟩ := form.eq_cons
  rw [readOnlyKey, List.cons_append, skipBlanks_solid blankBefore (by decide)]
  change (readName α (body ++ _) >>= _) = _
  rw [readName_of_textLiteral distinct listed form]
  simp only [bind, Except.bind]
  rw [readColon_of_blanks blankGap]
  simp only
  rw [readNull_of_blanks blank]
  simp only
  rw [skipBlanks_solid blankAfter (by decide)]
  rfl

theorem named_lawful (distinct : ((Named.names (α := α)).map Prod.fst).Nodup) :
    (Named.wire α).Lawful (NameText Named.names) where
  sound := by
    intro bytes rest value run
    change readNamed α bytes = _ at run
    unfold readNamed at run
    split at run
    · next found =>
        obtain ⟨blanks, blank, shape⟩ := eq_of_skipBlanks found
        obtain ⟨name, text, listed, form, rfl⟩ := textLiteral_of_readName run
        exact ⟨blanks, 0x22 :: text, blank, .plain listed form, shape⟩
    · next found =>
        obtain ⟨blanks, blank, shape⟩ := eq_of_skipBlanks found
        obtain ⟨text, form, rfl⟩ := nameText_of_readOnlyKey run
        exact ⟨blanks, 0x7B :: text, blank, form, shape⟩
    · cases run
    · cases run
  complete := by
    intro blanks text rest value blank form _
    change readNamed α _ = _
    cases form with
    | plain listed form =>
        obtain ⟨body, rfl⟩ := form.eq_cons
        rw [readNamed, List.cons_append, skipBlanks_solid blank (by decide)]
        exact readName_of_textLiteral distinct listed form rest
    | key listed blankBefore form blankGap blank' blankAfter =>
        have keyRun : readOnlyKey α _ = .ok (value, rest) :=
          readOnlyKey_of_parts distinct listed blankBefore form blankGap blank' blankAfter
        simp only [List.append_assoc, List.cons_append, List.nil_append] at keyRun ⊢
        rw [readNamed, skipBlanks_solid blank (by decide)]
        exact keyRun
  begins := by
    intro text value form
    cases form with
    | plain _ form =>
        obtain ⟨body, rfl⟩ := form.eq_cons
        exact ⟨0x22, body, rfl, by decide, by decide⟩
    | key => exact ⟨0x7B, _, rfl, by decide, by decide⟩
  written _ _ value :=
    .plain (mem_of_lookup (Named.lookup_name value)) (textLiteral_literal (Named.name value))

end Names

/-! ## Whole payloads -/

section Payloads

variable {α : Type} [wire : Wire α] {Form : List UInt8 → α → Prop}

/-- A payload that holds a text of the form, with nothing but blanks around it. -/
def Holds (Form : List UInt8 → α → Prop) (payload : List UInt8) (value : α) : Prop :=
  ∃ before text after, Blanks before ∧ Form text value ∧ Blanks after ∧
    payload = before ++ (text ++ after)

theorem ends_of_blanks {blanks : List UInt8} (blank : Blanks blanks) : Ends blanks := by
  have ends : Ends (blanks ++ []) := ends_blanks_append blank (by intro byte member; cases member)
  rwa [List.append_nil] at ends

theorem decode_eq_ok_iff (lawful : wire.Lawful Form) {payload : List UInt8} {value : α} :
    decode payload = .ok value ↔ Holds Form payload value := by
  constructor
  · intro run
    unfold decode at run
    split at run
    · next found =>
        cases run
        obtain ⟨⟨read, rest⟩, readRun, answer⟩ := bind_eq_ok found
        obtain ⟨before, text, blankBefore, form, rfl⟩ := lawful.sound readRun
        dsimp only at answer
        split at answer
        · next behind =>
            cases answer
            obtain ⟨after, blankAfter, shape⟩ := eq_of_skipBlanks behind
            rw [List.append_nil] at shape
            exact ⟨before, text, after, blankBefore, form, blankAfter, by rw [shape]⟩
        · cases answer
    · cases run
  · rintro ⟨before, text, after, blankBefore, form, blankAfter, rfl⟩
    have readRun := lawful.complete blankBefore form (ends_of_blanks blankAfter)
    have whole : readWhole wire.reader (before ++ (text ++ after)) = .ok value := by
      rw [readWhole, readRun]
      simp only [bind, Except.bind, skipBlanks_blanks blankAfter]
      rfl
    rw [decode, whole]

theorem bytes_encode (layout : Layout) (value : α) : Utf8.encode (encode layout value) =
    ofChars ((Wire.document value).write layout 0) := by
  rw [Utf8.encode, encode, String.toList_ofList, ofChars]

/-- What is written is read back, whatever the layout. -/
theorem decode_encode (lawful : wire.Lawful Form) {layout : Layout} (blank : layout.Blank)
    (value : α) : decode (Utf8.encode (encode layout value)) = .ok value := by
  rw [decode_eq_ok_iff lawful]
  refine ⟨[], _, [], blanks_nil, lawful.written blank 0 value, blanks_nil, ?_⟩
  rw [List.nil_append, List.append_nil, bytes_encode]

end Payloads

theorem place_of_behind (cause : Cause) (front : List UInt8) (byte : UInt8)
    (rest : List UInt8) : (Fault.behind cause (byte :: rest)).place (front ++ byte :: rest) =
      Place.behind (front ++ [byte]) := by
  have shape : front ++ byte :: rest = (front ++ [byte]) ++ rest := by
    rw [List.append_assoc, List.singleton_append]
  have unread : (Fault.behind cause (byte :: rest)).unread = rest.length := rfl
  rw [Fault.place, unread, shape, List.length_append, Nat.add_sub_cancel, List.take_left]

theorem place_of_before (cause : Cause) (front rest : List UInt8) :
    (Fault.before cause rest).place (front ++ rest) = Place.behind front := by
  have unread : (Fault.before cause rest).unread = rest.length := rfl
  rw [Fault.place, unread, List.length_append, Nat.add_sub_cancel, List.take_left]

theorem place_behind_of_one_line {bytes : List UInt8} (oneLine : 0x0A ∉ bytes) :
    Place.behind bytes = ⟨1, bytes.length⟩ := by
  have same : ∀ byte ∈ bytes.reverse, (byte != 0x0A) = true := by
    intro byte member
    rw [bne_iff_ne]
    rintro rfl
    exact oneLine (List.mem_reverse.mp member)
  have whole := @List.takeWhile_append_of_pos _ _ _ [] same
  rw [List.append_nil, List.takeWhile_nil, List.append_nil] at whole
  rw [Place.behind, List.count_eq_zero.mpr oneLine, whole, List.length_reverse]

end EquiJoin.Json
