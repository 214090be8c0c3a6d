import EquiJoin.Proofs.Descriptor.Payload

/-!
# Where a descriptor ends

The bytes of a descriptor tell by themselves where it ends.  What stands behind an accepted payload
changes nothing about how the payload itself is read (`readWhole_append`): either it is blank, and
the same descriptor is accepted, or its first byte that is not blank is reported as too much.
-/

set_option autoImplicit false

namespace EquiJoin.Descriptor

open Json

variable {T C : Type}

section Accepted

variable [table : Reference T] [column : Reference C] {TableText : List UInt8 → T → Prop}
  {ColumnText : List UInt8 → C → Prop}

/-- Behind an accepted payload only what follows is looked at. -/
theorem readWhole_append (tableLawful : table.toWire.Lawful TableText)
    (columnLawful : column.toWire.Lawful ColumnText) {payload : List UInt8}
    {descriptor : Descriptor T C} (accepted : ofJsonBytes payload = .ok descriptor)
    (rest : List UInt8) :
    readWhole (format T C).toWire.reader (payload ++ rest) =
      match skipBlanks rest with
      | [] => .ok descriptor
      | rest => .error (.behind .trailingCharacters rest) := by
  obtain ⟨before, text, after, blankBefore, form, blankAfter, rfl⟩ :=
    (ofJsonBytes_eq_ok_iff tableLawful columnLawful).mp accepted
  have run := read_of_text tableLawful columnLawful blankBefore form (after ++ rest)
  rw [List.append_assoc, List.append_assoc, readWhole, run]
  simp only [bind, Except.bind, skipBlanks_append blankAfter]
  rfl

theorem ofJsonBytes_append_blanks (tableLawful : table.toWire.Lawful TableText)
    (columnLawful : column.toWire.Lawful ColumnText) {payload : List UInt8}
    {descriptor : Descriptor T C} (accepted : ofJsonBytes payload = .ok descriptor)
    {blanks : List UInt8} (blank : Blanks blanks) :
    ofJsonBytes (payload ++ blanks) = .ok descriptor := by
  have whole := readWhole_append tableLawful columnLawful accepted blanks
  rw [skipBlanks_blanks blank] at whole
  rw [ofJsonBytes, decode, whole]

theorem ofJsonBytes_append_solid (tableLawful : table.toWire.Lawful TableText)
    (columnLawful : column.toWire.Lawful ColumnText) {payload : List UInt8}
    {descriptor : Descriptor T C} (accepted : ofJsonBytes payload = .ok descriptor)
    {rest : List UInt8} (solid : ¬ Blanks rest) :
    ∃ blanks byte others, Blanks blanks ∧ isBlank byte = false ∧
      rest = blanks ++ byte :: others ∧
      (ofJsonBytes (payload ++ rest) : Except Malformed (Descriptor T C)) =
        .error ⟨.trailingCharacters, Place.behind (payload ++ (blanks ++ [byte]))⟩ := by
  obtain ⟨blanks, byte, others, blank, stops, rfl⟩ := exists_solid solid
  refine ⟨blanks, byte, others, blank, stops, rfl, ?_⟩
  have whole := readWhole_append tableLawful columnLawful accepted (blanks ++ byte :: others)
  rw [skipBlanks_solid blank stops] at whole
  rw [ofJsonBytes, decode, whole]
  simp only
  rw [← List.append_assoc, place_of_behind, List.append_assoc]
  rfl

theorem ofJsonBytes_append_eq_ok_iff (tableLawful : table.toWire.Lawful TableText)
    (columnLawful : column.toWire.Lawful ColumnText) {payload : List UInt8}
    {descriptor : Descriptor T C} (accepted : ofJsonBytes payload = .ok descriptor)
    (rest : List UInt8) (found : Descriptor T C) :
    ofJsonBytes (payload ++ rest) = .ok found ↔ Blanks rest ∧ found = descriptor := by
  by_cases blank : Blanks rest
  · rw [ofJsonBytes_append_blanks tableLawful columnLawful accepted blank, Except.ok.injEq]
    exact ⟨fun same => ⟨blank, same.symm⟩, fun same => same.2.symm⟩
  · obtain ⟨_, _, _, _, _, _, refused⟩ :=
      ofJsonBytes_append_solid tableLawful columnLawful accepted blank
    rw [refused]
    constructor
    · intro run
      cases run
    · rintro ⟨allBlank, _⟩
      exact absurd allBlank blank

theorem ofJsonBytes_blanks_append (tableLawful : table.toWire.Lawful TableText)
    (columnLawful : column.toWire.Lawful ColumnText) {payload : List UInt8}
    {descriptor : Descriptor T C} (accepted : ofJsonBytes payload = .ok descriptor)
    {blanks : List UInt8} (blank : Blanks blanks) :
    ofJsonBytes (blanks ++ payload) = .ok descriptor := by
  rw [ofJsonBytes_eq_ok_iff tableLawful columnLawful] at accepted ⊢
  obtain ⟨before, text, after, blankBefore, form, blankAfter, rfl⟩ := accepted
  exact ⟨blanks ++ before, text, after, blank.append blankBefore, form, blankAfter,
    (List.append_assoc _ _ _).symm⟩

end Accepted

/-- Over these references an accepted payload shows where it ends. -/
structure SelfDelimiting (T C : Type) [Reference T] [Reference C] : Prop where
  append_eq_ok_iff {payload : List UInt8} {descriptor : Descriptor T C} (rest : List UInt8)
    (found : Descriptor T C) : ofJsonBytes payload = .ok descriptor →
      (ofJsonBytes (payload ++ rest) = .ok found ↔ Blanks rest ∧ found = descriptor)
  append_eq_error {payload : List UInt8} {descriptor : Descriptor T C} {rest : List UInt8} :
    ofJsonBytes payload = .ok descriptor → ¬ Blanks rest →
      ∃ blanks byte others, Blanks blanks ∧ isBlank byte = false ∧
        rest = blanks ++ byte :: others ∧
        (ofJsonBytes (payload ++ rest) : Except Malformed (Descriptor T C)) =
          .error ⟨.trailingCharacters, Place.behind (payload ++ (blanks ++ [byte]))⟩
  blanks_append {payload : List UInt8} {descriptor : Descriptor T C} {blanks : List UInt8} :
    ofJsonBytes payload = .ok descriptor → Blanks blanks →
      ofJsonBytes (blanks ++ payload) = .ok descriptor
  /-- Of two accepted payloads, neither begins with the other and goes on. -/
  prefix_blanks {payload longer : List UInt8} {descriptor other : Descriptor T C} :
    ofJsonBytes payload = .ok descriptor → ofJsonBytes longer = .ok other → payload <+: longer →
      ∃ blanks, Blanks blanks ∧ longer = payload ++ blanks

theorem selfDelimiting_of_lawful [table : Reference T] [column : Reference C]
    {TableText : List UInt8 → T → Prop} {ColumnText : List UInt8 → C → Prop}
    (tableLawful : table.toWire.Lawful TableText)
    (columnLawful : column.toWire.Lawful ColumnText) : SelfDelimiting T C where
  append_eq_ok_iff rest found accepted :=
    ofJsonBytes_append_eq_ok_iff tableLawful columnLawful accepted rest found
  append_eq_error accepted solid :=
    ofJsonBytes_append_solid tableLawful columnLawful accepted solid
  blanks_append accepted blank :=
    ofJsonBytes_blanks_append tableLawful columnLawful accepted blank
  prefix_blanks := by
    rintro payload longer descriptor other accepted longerAccepted ⟨rest, rfl⟩
    have whole := ofJsonBytes_append_eq_ok_iff tableLawful columnLawful accepted rest other
    exact ⟨rest, (whole.mp longerAccepted).1, rfl⟩

/-- Over bare names as over handles, an accepted payload goes on only with blanks. -/
theorem selfDelimiting :
    SelfDelimiting String String ∧ SelfDelimiting TableHandle ColumnHandle := by
  constructor
  · exact selfDelimiting_of_lawful text_lawful text_lawful
  · exact selfDelimiting_of_lawful TableHandle.lawful ColumnHandle.lawful

/-- A sent descriptor may stand between line ends, but another one right behind it is too much, from
its brace on. -/
theorem selfDelimiting_concatenated :
    let plan : Descriptor String String :=
      ⟨⟨"orders", "customer", ["id"]⟩, ⟨"customers", "id", []⟩, .leftOuter, .right, true⟩
    let payload := plan.toJsonBytes
    ofJsonBytes (payload ++ [0x0D, 0x0A]) = .ok plan ∧
      ofJsonBytes (0x0A :: payload) = .ok plan ∧
      (ofJsonBytes (payload ++ payload) : Except Malformed (Descriptor String String)) =
        .error ⟨.trailingCharacters, Place.behind (payload ++ [0x7B])⟩ := by
  intro plan payload
  have accepted : ofJsonBytes payload = .ok plan :=
    decode_encode (lawful text_lawful text_lawful) blank_compact plan
  obtain ⟨members, opens⟩ : ∃ members, payload = 0x7B :: members :=
    ⟨_, bytes_encode .compact plan⟩
  clear_value payload
  have solid : ¬ Blanks payload := by
    rw [opens]
    intro blank
    exact absurd (blank 0x7B List.mem_cons_self) (by decide)
  have lineEnd : Blanks [0x0D, 0x0A] := by simp [Blanks]
  have lineFeed : Blanks [0x0A] := by simp [Blanks]
  refine ⟨(selfDelimiting.1.append_eq_ok_iff _ plan accepted).mpr ⟨lineEnd, rfl⟩,
    selfDelimiting.1.blanks_append accepted lineFeed, ?_⟩
  obtain ⟨blanks, byte, others, blank, stops, shape, refused⟩ :=
    selfDelimiting.1.append_eq_error accepted solid
  rw [opens] at shape
  cases blanks with
  | nil =>
      obtain ⟨rfl, -⟩ := List.cons.inj shape
      exact refused
  | cons first blanks =>
      obtain ⟨rfl, -⟩ := List.cons.inj shape
      exact absurd (blank 0x7B List.mem_cons_self) (by decide)

end EquiJoin.Descriptor
