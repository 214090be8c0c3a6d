import EquiJoin.Json.Token

/-!
# Skipping values

A member that nobody asks for may hold any value.  It is passed over without being built: the
brackets that are still open are kept on a stack, so that values may nest to any depth.  Only the
shape of a skipped value is checked. -/

set_option autoImplicit false

namespace EquiJoin.Json

inductive Bracket where
  | list
  | object
  deriving DecidableEq

def Bracket.opening : Bracket → UInt8
  | .list => 0x5B
  | .object => 0x7B

def Bracket.closing : Bracket → UInt8
  | .list => 0x5D
  | .object => 0x7D

def Bracket.unclosed : Bracket → Cause
  | .list => .endOfList
  | .object => .endOfObject

def Bracket.uncontinued : Bracket → Cause
  | .list => .expectedCommaInList
  | .object => .expectedCommaInObject

/-- The bytes behind a value without brackets, blanks in front being skipped already. -/
def skipScalar (bytes : List UInt8) : Except Fault (List UInt8) :=
  match bytes with
  | [] => .error (.behind .endOfValue [])
  | 0x6E :: rest => readLetters nullTail rest
  | 0x74 :: rest => readLetters trueTail rest
  | 0x66 :: rest => readLetters falseTail rest
  | 0x22 :: rest => skipLiteral rest
  | byte :: rest =>
      if startsNumber byte then skipNumber (byte :: rest)
      else .error (.behind .expectedValue (byte :: rest))

def skipKey (bytes : List UInt8) : Except Fault (List UInt8) :=
  match skipBlanks bytes with
  | [] => .error (.behind .endOfObject [])
  | 0x22 :: rest => do readColon (← skipLiteral rest)
  | rest => .error (.behind .keyNotText rest)

def Bracket.skipToValue : Bracket → List UInt8 → Except Fault (List UInt8)
  | .list, bytes => .ok bytes
  | .object, bytes => skipKey bytes

theorem skipScalar_length {bytes rest : List UInt8} (run : skipScalar bytes = .ok rest) :
    rest.length < bytes.length := by
  unfold skipScalar at run
  split at run
  · cases run
  · exact Nat.lt_succ_of_le (readLetters_length run)
  · exact Nat.lt_succ_of_le (readLetters_length run)
  · exact Nat.lt_succ_of_le (readLetters_length run)
  · exact Nat.lt_succ_of_lt (skipLiteral_length run)
  · split at run
    · exact skipNumber_length run
    · cases run

theorem skipKey_length {bytes rest : List UInt8} (run : skipKey bytes = .ok rest) :
    rest.length < bytes.length := by
  have blanks := skipBlanks_length bytes
  unfold skipKey at run
  split at run
  · cases run
  · next tail found =>
      rw [found] at blanks
      obtain ⟨after, literalRun, run⟩ := bind_eq_ok run
      exact Nat.lt_trans (readColon_length run)
        (Nat.lt_trans (skipLiteral_length literalRun) blanks)
  · cases run

theorem Bracket.skipToValue_length {bracket : Bracket} {bytes rest : List UInt8}
    (run : bracket.skipToValue bytes = .ok rest) : rest.length ≤ bytes.length := by
  cases bracket with
  | list => cases run; exact Nat.le_refl _
  | object => exact Nat.le_of_lt (skipKey_length run)

mutual

/-- The bytes behind a value and behind all brackets that are open around it. -/
def skipValue (outer : List Bracket) (bytes : List UInt8) : Except Fault (List UInt8) :=
  match _found : skipBlanks bytes with
  | 0x5B :: rest => skipEntries .list outer true rest
  | 0x7B :: rest => skipEntries .object outer true rest
  | rest =>
      match _run : skipScalar rest with
      | .error fault => .error fault
      | .ok rest => skipOuter outer rest
termination_by 3 * bytes.length
decreasing_by
  all_goals
    have blanks := skipBlanks_length bytes
    rw [_found] at blanks
  · simp only [List.length_cons] at blanks
    omega
  · simp only [List.length_cons] at blanks
    omega
  · have shorter := skipScalar_length _run
    omega

/-- The bytes behind the brackets, the innermost of which has just had an entry. -/
def skipOuter (outer : List Bracket) (bytes : List UInt8) : Except Fault (List UInt8) :=
  match outer with
  | [] => .ok bytes
  | bracket :: outer => skipEntries bracket outer false bytes
termination_by 3 * bytes.length + 2
decreasing_by omega

def skipEntries (bracket : Bracket) (outer : List Bracket) (first : Bool) (bytes : List UInt8) :
    Except Fault (List UInt8) :=
  match _found : skipBlanks bytes with
  | [] => .error (.behind bracket.unclosed [])
  | byte :: rest =>
      if byte = bracket.closing then skipOuter outer rest
      else if first then
        match _run : bracket.skipToValue (byte :: rest) with
        | .error fault => .error fault
        | .ok rest => skipValue (bracket :: outer) rest
      else if byte = 0x2C then
        match _run : bracket.skipToValue rest with
        | .error fault => .error fault
        | .ok rest => skipValue (bracket :: outer) rest
      else .error (.before bracket.uncontinued rest)
termination_by 3 * bytes.length + 1
decreasing_by
  all_goals
    have blanks := skipBlanks_length bytes
    rw [_found] at blanks
    simp only [List.length_cons] at blanks
  · omega
  · have shorter := Bracket.skipToValue_length _run
    simp only [List.length_cons] at shorter
    omega
  · have shorter := Bracket.skipToValue_length _run
    omega

end

theorem skipValue_eq (outer : List Bracket) (bytes : List UInt8) :
    skipValue outer bytes =
      match skipBlanks bytes with
      | 0x5B :: rest => skipEntries .list outer true rest
      | 0x7B :: rest => skipEntries .object outer true rest
      | rest => skipScalar rest >>= skipOuter outer := by
  rw [skipValue]
  split
  · next found => rw [found]; rfl
  · next found => rw [found]; rfl
  · next notList notObject =>
      have scalar : (match skipBlanks bytes with
          | 0x5B :: rest => skipEntries .list outer true rest
          | 0x7B :: rest => skipEntries .object outer true rest
          | rest => skipScalar rest >>= skipOuter outer) =
          skipScalar (skipBlanks bytes) >>= skipOuter outer := by
        split
        · next found => exact (notList _ found).elim
        · next found => exact (notObject _ found).elim
        · rfl
      rw [scalar]
      split
      · next run => rw [run]; rfl
      · next run => rw [run]; rfl

theorem skipValue_of_scalar {outer : List Bracket} {bytes : List UInt8}
    (notList : ∀ rest, skipBlanks bytes = 0x5B :: rest → False)
    (notObject : ∀ rest, skipBlanks bytes = 0x7B :: rest → False) :
    skipValue outer bytes = skipScalar (skipBlanks bytes) >>= skipOuter outer := by
  rw [skipValue_eq]
  split
  · next found => exact (notList _ found).elim
  · next found => exact (notObject _ found).elim
  · rfl

theorem skipOuter_nil (bytes : List UInt8) : skipOuter [] bytes = .ok bytes := by
  rw [skipOuter]

theorem skipOuter_cons (bracket : Bracket) (outer : List Bracket) (bytes : List UInt8) :
    skipOuter (bracket :: outer) bytes = skipEntries bracket outer false bytes := by
  rw [skipOuter]

theorem skipEntries_eq (bracket : Bracket) (outer : List Bracket) (first : Bool)
    (bytes : List UInt8) :
    skipEntries bracket outer first bytes =
      match skipBlanks bytes with
      | [] => .error (.behind bracket.unclosed [])
      | byte :: rest =>
          if byte = bracket.closing then skipOuter outer rest
          else if first then bracket.skipToValue (byte :: rest) >>= skipValue (bracket :: outer)
          else if byte = 0x2C then bracket.skipToValue rest >>= skipValue (bracket :: outer)
          else .error (.before bracket.uncontinued rest) := by
  rw [skipEntries]
  split
  · next found => rw [found]
  · next byte rest found =>
      rw [found]
      dsimp only
      split
      · rfl
      · split
        · split
          · next run => rw [run]; rfl
          · next run => rw [run]; rfl
        · split
          · split
            · next run => rw [run]; rfl
            · next run => rw [run]; rfl
          · rfl

inductive NextEntry : Bool → List UInt8 → List UInt8 → Prop where
  | first {bytes rest : List UInt8} {byte : UInt8} :
      skipBlanks bytes = byte :: rest → NextEntry true bytes (byte :: rest)
  | next {bytes rest : List UInt8} :
      skipBlanks bytes = 0x2C :: rest → NextEntry false bytes rest

inductive Ahead where
  | value (outer : List Bracket)
  | around (outer : List Bracket)
  | entries (bracket : Bracket) (outer : List Bracket) (first : Bool)

def Ahead.skip : Ahead → List UInt8 → Except Fault (List UInt8)
  | .value outer => skipValue outer
  | .around outer => skipOuter outer
  | .entries bracket outer first => skipEntries bracket outer first

/-- What passing over the bytes comes to, one constructor for each way on and each way out.  What
holds of skipping is shown by induction on this. -/
inductive Skips : Ahead → List UInt8 → Except Fault (List UInt8) → Prop where
  | nested {bracket : Bracket} {outer : List Bracket} {bytes rest : List UInt8}
      {result : Except Fault (List UInt8)} : skipBlanks bytes = bracket.opening :: rest →
        Skips (.entries bracket outer true) rest result → Skips (.value outer) bytes result
  | scalarFault {outer : List Bracket} {bytes : List UInt8} {fault : Fault} :
      skipScalar (skipBlanks bytes) = .error fault → Skips (.value outer) bytes (.error fault)
  | scalar {outer : List Bracket} {bytes rest : List UInt8} {result : Except Fault (List UInt8)} :
      skipScalar (skipBlanks bytes) = .ok rest → Skips (.around outer) rest result →
        Skips (.value outer) bytes result
  | outside {bytes : List UInt8} : Skips (.around []) bytes (.ok bytes)
  | inside {bracket : Bracket} {outer : List Bracket} {bytes : List UInt8}
      {result : Except Fault (List UInt8)} :
        Skips (.entries bracket outer false) bytes result →
          Skips (.around (bracket :: outer)) bytes result
  | unclosed {bracket : Bracket} {outer : List Bracket} {first : Bool} {bytes : List UInt8} :
      Skips (.entries bracket outer first) bytes (.error (.behind bracket.unclosed []))
  | close {bracket : Bracket} {outer : List Bracket} {first : Bool} {bytes rest : List UInt8}
      {result : Except Fault (List UInt8)} : skipBlanks bytes = bracket.closing :: rest →
        Skips (.around outer) rest result → Skips (.entries bracket outer first) bytes result
  | entryFault {bracket : Bracket} {outer : List Bracket} {first : Bool}
      {bytes entry : List UInt8} {fault : Fault} : NextEntry first bytes entry →
        bracket.skipToValue entry = .error fault →
          Skips (.entries bracket outer first) bytes (.error fault)
  | entry {bracket : Bracket} {outer : List Bracket} {first : Bool}
      {bytes entry rest : List UInt8} {result : Except Fault (List UInt8)} :
        NextEntry first bytes entry → bracket.skipToValue entry = .ok rest →
          Skips (.value (bracket :: outer)) rest result →
            Skips (.entries bracket outer first) bytes result
  | uncontinued {bracket : Bracket} {outer : List Bracket} {bytes rest : List UInt8}
      {byte : UInt8} : skipBlanks bytes = byte :: rest →
        Skips (.entries bracket outer false) bytes (.error (.before bracket.uncontinued rest))

theorem skips (ahead : Ahead) (bytes : List UInt8) : Skips ahead bytes (ahead.skip bytes) := by
  have all : (∀ outer bytes, Skips (.value outer) bytes (skipValue outer bytes)) ∧
      (∀ outer bytes, Skips (.around outer) bytes (skipOuter outer bytes)) ∧
      (∀ bracket outer first bytes,
        Skips (.entries bracket outer first) bytes (skipEntries bracket outer first bytes)) := by
    apply skipValue.mutual_induct
    case case1 =>
      intro outer bytes rest found ih
      rw [skipValue_eq, found]
      exact @Skips.nested .list _ _ _ _ found ih
    case case2 =>
      intro outer bytes rest found ih
      rw [skipValue_eq, found]
      exact @Skips.nested .object _ _ _ _ found ih
    case case3 =>
      intro outer bytes fault notList notObject failed
      rw [skipValue_of_scalar notList notObject, failed]
      exact .scalarFault failed
    case case4 =>
      intro outer bytes rest notList notObject run ih
      rw [skipValue_of_scalar notList notObject, run]
      exact .scalar run ih
    case case5 =>
      intro bytes
      rw [skipOuter_nil]
      exact .outside
    case case6 =>
      intro bytes bracket outer ih
      rw [skipOuter_cons]
      exact .inside ih
    case case7 =>
      intro bracket outer first bytes found
      rw [skipEntries_eq, found]
      exact .unclosed
    case case8 =>
      intro bracket outer first bytes rest found ih
      rw [skipEntries_eq, found]
      simp only [↓reduceIte]
      exact .close found ih
    case case9 =>
      intro bracket outer bytes byte rest found notClosing fault failed
      rw [skipEntries_eq, found]
      simp only [notClosing, ↓reduceIte, failed]
      exact .entryFault (.first found) failed
    case case10 =>
      intro bracket outer bytes byte rest found notClosing after run ih
      rw [skipEntries_eq, found]
      simp only [notClosing, ↓reduceIte, run]
      exact .entry (.first found) run ih
    case case11 =>
      intro bracket outer first bytes rest notFirst fault failed found notClosing
      obtain rfl := Bool.eq_false_iff.mpr notFirst
      rw [skipEntries_eq, found]
      simp only [notClosing, ↓reduceIte, failed]
      exact .entryFault (.next found) failed
    case case12 =>
      intro bracket outer first bytes rest notFirst after run found notClosing ih
      obtain rfl := Bool.eq_false_iff.mpr notFirst
      rw [skipEntries_eq, found]
      simp only [notClosing, ↓reduceIte, run]
      exact .entry (.next found) run ih
    case case13 =>
      intro bracket outer first bytes byte rest found notClosing notFirst notComma
      obtain rfl := Bool.eq_false_iff.mpr notFirst
      rw [skipEntries_eq, found]
      simp only [notClosing, notComma, ↓reduceIte]
      exact .uncontinued found
  cases ahead with
  | value outer => exact all.1 outer bytes
  | around outer => exact all.2.1 outer bytes
  | entries bracket outer first => exact all.2.2 bracket outer first bytes

theorem NextEntry.length_le {first : Bool} {bytes entry : List UInt8}
    (next : NextEntry first bytes entry) : entry.length ≤ bytes.length := by
  have blanks := skipBlanks_length bytes
  cases next with
  | first found | next found =>
      rw [found] at blanks
      simp only [List.length_cons] at blanks ⊢
      omega

def Ahead.least : Ahead → Nat
  | .around _ => 0
  | .value _ | .entries _ _ _ => 1

theorem Skips.length {ahead : Ahead} {bytes rest : List UInt8}
    {result : Except Fault (List UInt8)} (skips : Skips ahead bytes result)
    (passed : result = .ok rest) : rest.length + ahead.least ≤ bytes.length := by
  induction skips with
  | @nested bracket outer bytes tail result found _ ih =>
      have shorter := ih passed
      have blanks := skipBlanks_length bytes
      rw [found, List.length_cons] at blanks
      simp only [Ahead.least] at shorter ⊢
      omega
  | scalarFault | unclosed | entryFault | uncontinued => cases passed
  | @scalar outer bytes tail result run _ ih =>
      have shorter := ih passed
      have scalarShorter := skipScalar_length run
      have blanks := skipBlanks_length bytes
      simp only [Ahead.least] at shorter ⊢
      omega
  | outside =>
      cases passed
      exact Nat.le_refl _
  | inside _ ih =>
      have shorter := ih passed
      exact Nat.le_of_succ_le shorter
  | @close bracket outer first bytes tail result found _ ih =>
      have shorter := ih passed
      have blanks := skipBlanks_length bytes
      rw [found, List.length_cons] at blanks
      simp only [Ahead.least] at shorter ⊢
      omega
  | entry next run _ ih =>
      have shorter := ih passed
      have entryShorter := Bracket.skipToValue_length run
      have nextShorter := next.length_le
      simp only [Ahead.least] at shorter ⊢
      omega

theorem skipValue_length {outer : List Bracket} {bytes rest : List UInt8}
    (run : skipValue outer bytes = .ok rest) : rest.length < bytes.length :=
  (skips (.value outer) bytes).length run

end EquiJoin.Json
