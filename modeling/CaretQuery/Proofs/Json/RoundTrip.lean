import CaretQuery.Json.Reader
import Mathlib

/-! # JSON that reads back

A JSON value without floating numbers is read back from its text as it was,
whatever its texts hold, if its objects repeat no key and its integers have no
more digits than are converted. Its text is one line, since all control
characters are escaped.
-/
namespace CaretQuery.Json

open Number (maxDigits)

/-! ## Numbers -/

theorem isDigit_iff {c : Char} : isDigit c = true ↔ c.isDigit = true := by
  simp [isDigit, Char.isDigit, Char.le_def]

theorem decimalValue_toDigits (n : Nat) : decimalValue (Nat.toDigits 10 n) = n := by
  have h := @Nat.ofDigitChars_ten_toDigits n
  rw [Nat.ofDigitChars_eq_foldl] at h
  simpa [decimalValue, Nat.mul_comm] using h

theorem isDigit_of_mem_toDigits {n : Nat} {c : Char} (h : c ∈ Nat.toDigits 10 n) :
    isDigit c = true :=
  isDigit_iff.2 (Nat.isDigit_of_mem_toDigits (by decide) (by decide) h)

/-- Digits do not start with a zero unless they are the zero. -/
theorem head?_toDigits {n : Nat} (h : 0 < n) : (Nat.toDigits 10 n).head? ≠ some '0' := by
  induction n using Nat.strongRecOn with
  | ind n ih =>
    rw [Nat.toDigits_eq_if (by decide)]
    split
    next hlt =>
      interval_cases n <;> simp [Nat.digitChar]
    next hle =>
      rw [List.head?_append_of_ne_nil _ Nat.toDigits_ne_nil]
      exact ih (n / 10) (by omega) (by omega)

/-- What may stand behind a number: nothing that goes on with it. -/
def EndsNumber (rest : List Char) : Prop :=
  ∀ c ∈ rest.head?, isDigit c = false ∧ c ≠ '.' ∧ c ≠ 'e' ∧ c ≠ 'E'

theorem wholeDigits_toDigits (n : Nat) {rest : List Char} (hrest : EndsNumber rest) :
    wholeDigits (Nat.toDigits 10 n ++ rest) = Nat.toDigits 10 n := by
  rcases Nat.eq_zero_or_pos n with rfl | hpos
  · simp [Nat.toDigits_zero, wholeDigits]
  · have hhead := head?_toDigits hpos
    have htake : (Nat.toDigits 10 n ++ rest).takeWhile isDigit = Nat.toDigits 10 n := by
      rw [List.takeWhile_append_of_pos fun c hc => isDigit_of_mem_toDigits hc]
      cases rest with
      | nil => simp
      | cons c rest => simp [(hrest c rfl).1]
    rcases hdigits : Nat.toDigits 10 n with _ | ⟨c, cs⟩
    · exact absurd hdigits Nat.toDigits_ne_nil
    · rw [hdigits] at hhead htake
      rw [wholeDigits.eq_def]
      split
      next heq =>
        simp only [List.cons_append, List.cons.injEq] at heq
        exact absurd (congrArg some heq.1) hhead
      next => exact htake

/-- Digits are read as the number that they write, if there are not too many of them. -/
theorem readNumber_toDigits {negative : Bool} {n : Nat} {start rest : List Char}
    (hrest : EndsNumber rest) :
    readNumber negative start (Nat.toDigits 10 n ++ rest) =
      if maxDigits < (Nat.toDigits 10 n).length then
        .error (.tooManyDigits (Nat.toDigits 10 n).length)
      else .ok (.int (if negative then -n else n), rest) := by
  have hwhole := wholeDigits_toDigits n hrest
  have hfraction : fractionDigits rest = [] := by
    cases rest with
    | nil => rfl
    | cons c rest =>
      rw [fractionDigits.eq_def]
      split
      next heq => exact absurd (List.cons.inj heq).1 (hrest c rfl).2.1
      next => rfl
  have hexponent : exponentPart rest = none := by
    cases rest with
    | nil => rfl
    | cons c rest => simp [exponentPart, (hrest c rfl).2.2]
  simp [readNumber, hwhole, hfraction, hexponent, decimalValue_toDigits]

theorem maxDigits_lt_length_toDigits_iff {n : Nat} :
    maxDigits < (Nat.toDigits 10 n).length ↔ 10 ^ maxDigits ≤ n := by
  rw [← Nat.not_le, Nat.length_toDigits_le_iff (by decide) (by decide), Nat.not_lt]

theorem toList_toString_int (n : Int) :
    (toString n).toList =
      (if 0 ≤ n then [] else ['-']) ++ Nat.toDigits 10 n.natAbs := by
  rw [Int.toString_eq_repr, Int.repr_eq_if]
  split
  next h =>
    rw [Nat.repr_eq_ofList_toDigits, String.toList_ofList, List.nil_append,
      show n.toNat = n.natAbs by omega]
  next h =>
    rw [String.toList_append, Nat.repr_eq_ofList_toDigits, String.toList_ofList,
      show (-n).toNat = n.natAbs by omega]
    simp

theorem exists_toDigits_eq_cons (n : Nat) :
    ∃ c cs, Nat.toDigits 10 n = c :: cs ∧ isDigit c = true := by
  rcases hdigits : Nat.toDigits 10 n with _ | ⟨c, cs⟩
  · exact absurd hdigits Nat.toDigits_ne_nil
  · exact ⟨c, cs, rfl, isDigit_of_mem_toDigits (by rw [hdigits]; exact List.mem_cons_self)⟩

/-- No word starts with a digit, so digits are read as a number. -/
theorem readScalar_toDigits (n : Nat) (rest : List Char) :
    readScalar (Nat.toDigits 10 n ++ rest) =
      readNumber false (Nat.toDigits 10 n ++ rest) (Nat.toDigits 10 n ++ rest) := by
  obtain ⟨c, cs, hcs, hc⟩ := exists_toDigits_eq_cons n
  rw [hcs, List.cons_append, readScalar.eq_def]
  split <;> simp_all [isDigit]

theorem exists_toString_int_eq_cons (n : Int) :
    ∃ c cs, (toString n).toList = c :: cs ∧ (isDigit c = true ∨ c = '-') := by
  obtain ⟨c, cs, hcs, hc⟩ := exists_toDigits_eq_cons n.natAbs
  rw [toList_toString_int, hcs]
  split
  · exact ⟨c, cs, rfl, .inl hc⟩
  · exact ⟨'-', c :: cs, rfl, .inr rfl⟩

/-- A digit is none of the characters that are something else. -/
theorem ne_of_isDigit {c d : Char} (hc : isDigit c = true) (hd : isDigit d = false) : c ≠ d := by
  rintro rfl
  rw [hc] at hd
  cases hd

theorem readScalar_int {n : Int} (hn : n.natAbs < 10 ^ maxDigits) {rest : List Char}
    (hrest : EndsNumber rest) :
    readScalar ((toString n).toList ++ rest) = .ok (.int n, rest) := by
  have hshort : ¬maxDigits < (Nat.toDigits 10 n.natAbs).length := by
    rw [maxDigits_lt_length_toDigits_iff]
    omega
  rw [toList_toString_int]
  split
  next h =>
    rw [List.nil_append, readScalar_toDigits, readNumber_toDigits hrest, if_neg hshort]
    simp [show (n.natAbs : Int) = n by omega]
  next h =>
    have hminus : readScalar ('-' :: (Nat.toDigits 10 n.natAbs ++ rest)) =
        readNumber true ('-' :: (Nat.toDigits 10 n.natAbs ++ rest))
          (Nat.toDigits 10 n.natAbs ++ rest) := by
      obtain ⟨c, cs, hcs, hc⟩ := exists_toDigits_eq_cons n.natAbs
      rw [hcs, List.cons_append, readScalar.eq_def]
      split <;> simp_all [isDigit]
    rw [List.singleton_append, List.cons_append, hminus, readNumber_toDigits hrest, if_neg hshort]
    simp only [if_true]
    rw [show -(n.natAbs : Int) = n by omega]

/-! ## Texts -/

/-- The four digits of the code of a control character. -/
theorem hexDigits_control : ∀ n < 32,
    Text.hexDigits 4 n = ['0', '0', Text.hexDigit (n / 16), Text.hexDigit (n % 16)] ∧
      hexNumber? '0' '0' (Text.hexDigit (n / 16)) (Text.hexDigit (n % 16)) = some n := by
  decide

theorem readString_code {left n : Nat} {a b c d next : Char} {more : List Char}
    (h : hexNumber? a b c d = some n) (hn : isHighSurrogate n = false) :
    readString left ('\\' :: 'u' :: a :: b :: c :: d :: next :: more) =
      consRead (scalar n) (readString left (next :: more)) := by
  rw [readString.eq_def]
  split <;> grind

theorem readString_control {left : Nat} {c next : Char} {more : List Char} (hc : c.toNat < 32) :
    readString left ('\\' :: 'u' :: Text.hexDigits 4 c.toNat ++ next :: more) =
      consRead c (readString left (next :: more)) := by
  obtain ⟨hdigits, hnumber⟩ := hexDigits_control c.toNat hc
  have hsurrogate : isHighSurrogate c.toNat = false := by
    simp [isHighSurrogate]; omega
  have hscalar : scalar c.toNat = c := by
    rw [scalar, hsurrogate, show isLowSurrogate c.toNat = false by simp [isLowSurrogate]; omega]
    exact Char.ofNat_toNat c
  rw [hdigits]
  exact (readString_code hnumber hsurrogate).trans (by rw [hscalar])

theorem readString_plain {left : Nat} {c : Char} {rest : List Char} (hquote : c ≠ '"')
    (hslash : c ≠ '\\') (hc : 32 ≤ c.toNat) :
    readString left (c :: rest) = consRead c (readString left rest) := by
  rw [readString.eq_def]
  split <;> simp_all

/-- An escaped character is read back wherever something follows it. -/
theorem readString_escapeChar (left : Nat) (c next : Char) (more : List Char) :
    readString left (escapeChar c ++ next :: more) =
      consRead c (readString left (next :: more)) := by
  rw [escapeChar]
  split
  next h => rcases h with rfl | rfl <;> simp [readString, simpleEscape?]
  next hescaped =>
    rw [not_or] at hescaped
    split
    next h => subst h; simp [readString, simpleEscape?]
    split
    next h => subst h; simp [readString, simpleEscape?]
    split
    next h => subst h; simp [readString, simpleEscape?]
    split
    next h => subst h; simp [readString, simpleEscape?]
    split
    next h => subst h; simp [readString, simpleEscape?]
    split
    next hc => exact readString_control hc
    next hc => exact readString_plain hescaped.1 hescaped.2 (by omega)

theorem readString_quoted (left : Nat) (cs rest : List Char) :
    readString left (cs.flatMap escapeChar ++ '"' :: rest) = .ok (cs, rest) := by
  induction cs with
  | nil => simp [readString]
  | cons c cs ih =>
    obtain ⟨next, more, hmore⟩ :
        ∃ next more, cs.flatMap escapeChar ++ '"' :: rest = next :: more :=
      List.exists_cons_of_ne_nil (by simp)
    rw [List.flatMap_cons, List.append_assoc, hmore, readString_escapeChar, ← hmore, ih]
    rfl

theorem toList_quoted (s : String) :
    (quoted s).toList = '"' :: (s.toList.flatMap escapeChar ++ ['"']) := by
  rw [quoted, String.toList_ofList, quotedChars, List.cons_append]

/-! ## Values -/

mutual

/-- Values without floating numbers, whose integers are below a bound and whose objects repeat no
key. -/
def IsPlain (bound : Nat) : Json → Prop
  | .float _ => False
  | .int n => n.natAbs < bound
  | .array items => ArePlain bound items
  | .object members => (members.map Prod.fst).Nodup ∧ MembersPlain bound members
  | .null | .bool _ | .str _ => True

def ArePlain (bound : Nat) : List Json → Prop
  | [] => True
  | item :: items => item.IsPlain bound ∧ ArePlain bound items

def MembersPlain (bound : Nat) : List (String × Json) → Prop
  | [] => True
  | (_, value) :: members => value.IsPlain bound ∧ MembersPlain bound members

end

/-- Integers below this bound are converted when they are read. -/
def readBound : Nat := 10 ^ maxDigits

variable {bound : Nat}

/-- The text of a value starts with none of the characters that stand around values. -/
theorem exists_write_eq_cons {v : Json} (h : v.IsPlain bound) :
    ∃ c cs, v.write.toList = c :: cs ∧
      isSpace c = false ∧ c ≠ ']' ∧ c ≠ '\x7d' ∧ c ≠ '\ufeff' := by
  cases v with
  | null => exact ⟨'n', "ull".toList, rfl, by decide⟩
  | bool b =>
    cases b with
    | false => exact ⟨'f', "alse".toList, rfl, by decide⟩
    | true => exact ⟨'t', "rue".toList, rfl, by decide⟩
  | int n =>
    obtain ⟨c, cs, hcs, hc | rfl⟩ := exists_toString_int_eq_cons n
    · have hne {d : Char} (hd : isDigit d = false) : c ≠ d := ne_of_isDigit hc hd
      refine ⟨c, cs, hcs, ?_, hne rfl, hne rfl, hne rfl⟩
      simp [isSpace, hne (d := ' ') rfl, hne (d := '\t') rfl, hne (d := '\n') rfl,
        hne (d := '\r') rfl]
    · exact ⟨'-', cs, hcs, by decide⟩
  | float x => exact h.elim
  | str s => exact ⟨'"', _, by rw [write, toList_quoted], by decide⟩
  | array items => exact ⟨'[', _, by simp [write, arrayText]; rfl, by decide⟩
  | object members => exact ⟨'\x7b', _, by simp [write, objectText]; rfl, by decide⟩

theorem skipSpace_write {v : Json} (h : v.IsPlain bound) (rest : List Char) :
    skipSpace (v.write.toList ++ rest) = v.write.toList ++ rest := by
  obtain ⟨c, cs, hcs, hc, -⟩ := exists_write_eq_cons h
  simp [hcs, skipSpace, hc]

theorem toList_intercalate (text next : String) (texts : List String) :
    (", ".intercalate (text :: next :: texts)).toList =
      text.toList ++ ',' :: ' ' :: (", ".intercalate (next :: texts)).toList := by
  simp [String.intercalate_cons_cons]

theorem toList_write_array (items : List Json) :
    (Json.array items).write.toList =
      '[' :: ((", ".intercalate (writeItems items)).toList ++ [']']) := by
  simp [write, arrayText]

theorem toList_write_object (members : List (String × Json)) :
    (Json.object members).write.toList =
      '\x7b' :: ((", ".intercalate (writeMembers members)).toList ++ ['\x7d']) := by
  simp [write, objectText]

theorem endsNumber_cons {c : Char} {rest : List Char}
    (h : isDigit c = false ∧ c ≠ '.' ∧ c ≠ 'e' ∧ c ≠ 'E') : EndsNumber (c :: rest) := by
  rintro d ⟨⟩
  exact h

/-- An object without repeated keys is the object of its members. -/
theorem objectOf_of_nodup {members : List (String × Json)} (h : (members.map Prod.fst).Nodup) :
    objectOf members = .object members := by
  suffices hsuffices : ∀ before, ((before ++ members).map Prod.fst).Nodup →
      members.foldl (fun found member => putMember found member.1 member.2) before =
        before ++ members by
    rw [objectOf, hsuffices [] (by simpa using h), List.nil_append]
  clear h
  induction members with
  | nil => simp
  | cons member members ih =>
    intro before h
    have hfresh : putMember before member.1 member.2 = before ++ [member] := by
      rw [putMember, if_neg]
      intro hany
      obtain ⟨other, hother, heq⟩ := List.any_eq_true.1 hany
      rw [List.map_append, List.nodup_append] at h
      exact h.2.2 other.1 (List.mem_map_of_mem hother) member.1 (by simp) (by simpa using heq)
    rw [List.foldl_cons, hfresh, ih, List.append_assoc, List.singleton_append]
    simpa using h

/-- Words are read as they stand. -/
theorem readValue_of_readScalar {fuel : Nat} {c : Char} {cs : List Char}
    (h : c ≠ '"' ∧ c ≠ '[' ∧ c ≠ '\x7b') :
    readValue (fuel + 1) (c :: cs) = readScalar (c :: cs) := by
  rw [readValue.eq_def]
  split <;> simp_all

theorem readValue_array {fuel : Nat} {c : Char} {cs : List Char} (hc : isSpace c = false)
    (hbracket : c ≠ ']') :
    readValue (fuel + 1) ('[' :: c :: cs) =
      (readItems fuel (c :: cs)).map fun (items, rest) => (.array items, rest) := by
  rw [readValue, skipSpace, List.dropWhile_cons_of_neg (by simp [hc])]
  split
  next heq => exact absurd (List.cons.inj heq).1 hbracket
  next => rfl

theorem readValue_object {fuel : Nat} {cs : List Char} :
    readValue (fuel + 1) ('\x7b' :: '"' :: cs) =
      (readMembers fuel ('"' :: cs)).map fun (members, rest) => (objectOf members, rest) := rfl

theorem exists_writeItems_eq_cons {items : List Json} (h : ArePlain bound items)
    (hne : items ≠ []) :
    ∃ c cs, (", ".intercalate (writeItems items)).toList = c :: cs ∧
      isSpace c = false ∧ c ≠ ']' := by
  match items, h with
  | [item], h =>
    obtain ⟨c, cs, hcs, hspace, hbracket, -⟩ := exists_write_eq_cons h.1
    exact ⟨c, cs, by rw [writeItems, writeItems, String.intercalate_singleton, hcs], hspace,
      hbracket⟩
  | item :: next :: items, h =>
    obtain ⟨c, cs, hcs, hspace, hbracket, -⟩ := exists_write_eq_cons h.1
    exact ⟨c, _, by rw [writeItems, writeItems, toList_intercalate, hcs, List.cons_append], hspace,
      hbracket⟩

theorem toList_writeMember (key : String) (value : Json) :
    (quoted key ++ ": " ++ value.write).toList =
      '"' :: (key.toList.flatMap escapeChar ++ '"' :: ':' :: ' ' :: value.write.toList) := by
  simp [toList_quoted]

theorem exists_writeMembers_eq_cons {members : List (String × Json)} (hne : members ≠ []) :
    ∃ cs, (", ".intercalate (writeMembers members)).toList = '"' :: cs := by
  match members with
  | [(key, value)] =>
    exact ⟨_, by rw [writeMembers, writeMembers, String.intercalate_singleton, toList_writeMember]⟩
  | (key, value) :: next :: members =>
    exact ⟨_, by rw [writeMembers, writeMembers, toList_intercalate, toList_writeMember,
      List.cons_append]⟩

section Steps

variable {fuel : Nat} {cs rest later : List Char}

theorem readItems_last {item : Json} (hitem : readValue fuel cs = .ok (item, ']' :: rest)) :
    readItems (fuel + 1) cs = .ok ([item], rest) := by
  rw [readItems, hitem]
  rfl

theorem readItems_more {item : Json} {items : List Json}
    (hitem : readValue fuel cs = .ok (item, ',' :: ' ' :: later))
    (hspace : skipSpace later = later) (hitems : readItems fuel later = .ok (items, rest)) :
    readItems (fuel + 1) cs = .ok (item :: items, rest) := by
  have hlater : skipSpace (' ' :: later) = later := hspace
  rw [readItems, hitem]
  simp only [show skipSpace (',' :: ' ' :: later) = ',' :: ' ' :: later from rfl, hlater, hitems]
  rfl

variable {key : String} {value : Json}

theorem readMembers_last (hspace : skipSpace cs = cs)
    (hvalue : readValue fuel cs = .ok (value, '\x7d' :: rest)) :
    readMembers (fuel + 1) ('"' :: (key.toList.flatMap escapeChar ++ '"' :: ':' :: ' ' :: cs)) =
      .ok ([(key, value)], rest) := by
  have hcs : skipSpace (' ' :: cs) = cs := hspace
  rw [readMembers, readString_quoted]
  simp only [show skipSpace (':' :: ' ' :: cs) = ':' :: ' ' :: cs from rfl, hcs, hvalue]
  simp [show skipSpace ('\x7d' :: rest) = '\x7d' :: rest from rfl]

theorem readMembers_more {members : List (String × Json)} (hspace : skipSpace cs = cs)
    (hvalue : readValue fuel cs = .ok (value, ',' :: ' ' :: later))
    (hlater : skipSpace later = later) (hmembers : readMembers fuel later = .ok (members, rest)) :
    readMembers (fuel + 1) ('"' :: (key.toList.flatMap escapeChar ++ '"' :: ':' :: ' ' :: cs)) =
      .ok ((key, value) :: members, rest) := by
  have hcs : skipSpace (' ' :: cs) = cs := hspace
  have hnext : skipSpace (' ' :: later) = later := hlater
  rw [readMembers, readString_quoted]
  simp only [show skipSpace (':' :: ' ' :: cs) = ':' :: ' ' :: cs from rfl, hcs, hvalue,
    show skipSpace (',' :: ' ' :: later) = ',' :: ' ' :: later from rfl, hnext, hmembers]
  simp [Except.map]

end Steps

/-- A value is read back from its text wherever nothing goes on with it. -/
def ReadsBack (v : Json) : Prop :=
  ∀ fuel rest, v.write.toList.length ≤ fuel → EndsNumber rest →
    readValue fuel (v.write.toList ++ rest) = .ok (v, rest)

def ItemsReadBack (items : List Json) : Prop :=
  ∀ fuel rest, (", ".intercalate (writeItems items)).toList.length < fuel →
    readItems fuel ((", ".intercalate (writeItems items)).toList ++ ']' :: rest) =
      .ok (items, rest)

def MembersReadBack (members : List (String × Json)) : Prop :=
  ∀ fuel rest, (", ".intercalate (writeMembers members)).toList.length < fuel →
    readMembers fuel ((", ".intercalate (writeMembers members)).toList ++ '\x7d' :: rest) =
      .ok (members, rest)

/-- A value whose text is not empty is read with some fuel. -/
theorem readsBack_of_succ {v : Json} (h : v.IsPlain readBound)
    (hread : ∀ fuel rest, v.write.toList.length ≤ fuel + 1 → EndsNumber rest →
      readValue (fuel + 1) (v.write.toList ++ rest) = .ok (v, rest)) : v.ReadsBack := by
  intro fuel rest hfuel hrest
  obtain ⟨c, cs, hcs, -⟩ := exists_write_eq_cons h
  have hpos : 0 < fuel := by
    rw [hcs, List.length_cons] at hfuel
    omega
  obtain ⟨n, rfl⟩ := Nat.exists_eq_add_one.2 hpos
  exact hread n rest hfuel hrest

theorem readsBack_int {n : Int} (h : n.natAbs < readBound) : (Json.int n).ReadsBack := by
  apply readsBack_of_succ (v := .int n) h
  intro fuel rest _ hrest
  obtain ⟨c, cs, hcs, hc⟩ := exists_toString_int_eq_cons n
  have hword : c ≠ '"' ∧ c ≠ '[' ∧ c ≠ '\x7b' := by
    rcases hc with hc | rfl
    · exact ⟨ne_of_isDigit hc rfl, ne_of_isDigit hc rfl, ne_of_isDigit hc rfl⟩
    · decide
  have hscalar := readScalar_int h hrest
  rw [hcs, List.cons_append] at hscalar
  rw [write, hcs, List.cons_append, readValue_of_readScalar hword, hscalar]

theorem readsBack_str (s : String) : (Json.str s).ReadsBack := by
  apply readsBack_of_succ (v := .str s) trivial
  intro fuel rest _ _
  rw [write, toList_quoted, List.cons_append, readValue, List.append_assoc,
    List.singleton_append, readString_quoted]
  simp [Except.map]

theorem readsBack_array {items : List Json} (h : ArePlain readBound items) (hne : items ≠ [])
    (hitems : ItemsReadBack items) : (Json.array items).ReadsBack := by
  apply readsBack_of_succ (v := .array items) h
  intro fuel rest hfuel _
  rw [toList_write_array, List.length_cons, List.length_append, List.length_singleton] at hfuel
  obtain ⟨c, cs, hcs, hc, hbracket⟩ := exists_writeItems_eq_cons h hne
  have hread := hitems fuel rest (by omega)
  rw [hcs, List.cons_append] at hread
  rw [toList_write_array, List.cons_append, List.append_assoc, List.singleton_append, hcs,
    List.cons_append, readValue_array hc hbracket, hread]
  rfl

theorem readsBack_object {members : List (String × Json)}
    (h : (Json.object members).IsPlain readBound) (hne : members ≠ [])
    (hmembers : MembersReadBack members) :
    (Json.object members).ReadsBack := by
  apply readsBack_of_succ h
  intro fuel rest hfuel _
  rw [toList_write_object, List.length_cons, List.length_append, List.length_singleton] at hfuel
  obtain ⟨cs, hcs⟩ := exists_writeMembers_eq_cons hne
  have hread := hmembers fuel rest (by omega)
  rw [hcs, List.cons_append] at hread
  rw [toList_write_object, List.cons_append, List.append_assoc, List.singleton_append, hcs,
    List.cons_append, readValue_object, hread, ← objectOf_of_nodup h.1]
  rfl

theorem itemsReadBack_singleton {item : Json} (hitem : item.ReadsBack) :
    ItemsReadBack [item] := by
  intro fuel rest hfuel
  obtain ⟨fuel, rfl⟩ := Nat.exists_eq_add_one.2 (Nat.zero_lt_of_lt hfuel)
  rw [writeItems, writeItems, String.intercalate_singleton] at hfuel ⊢
  exact readItems_last (hitem fuel _ (by omega) (endsNumber_cons (by decide)))

theorem itemsReadBack_cons {item next : Json} {items : List Json}
    (h : ArePlain readBound (next :: items)) (hitem : item.ReadsBack)
    (hitems : ItemsReadBack (next :: items)) :
    ItemsReadBack (item :: next :: items) := by
  intro fuel rest hfuel
  obtain ⟨fuel, rfl⟩ := Nat.exists_eq_add_one.2 (Nat.zero_lt_of_lt hfuel)
  obtain ⟨c, cs, hcs, hc, -⟩ := exists_writeItems_eq_cons h (List.cons_ne_nil _ _)
  have hlater := hitems fuel rest
  rw [hcs] at hlater
  rw [writeItems, writeItems, toList_intercalate, ← writeItems, hcs] at hfuel ⊢
  rw [List.length_append, List.length_cons, List.length_cons] at hfuel
  rw [List.append_assoc]
  refine readItems_more (hitem fuel _ (by omega) (endsNumber_cons (by decide))) ?_
    (hlater (by omega))
  simp [skipSpace, hc]

theorem membersReadBack_singleton {key : String} {value : Json} (h : value.IsPlain readBound)
    (hvalue : value.ReadsBack) : MembersReadBack [(key, value)] := by
  intro fuel rest hfuel
  obtain ⟨fuel, rfl⟩ := Nat.exists_eq_add_one.2 (Nat.zero_lt_of_lt hfuel)
  rw [writeMembers, writeMembers, String.intercalate_singleton, toList_writeMember] at hfuel ⊢
  simp only [List.length_cons, List.length_append] at hfuel
  simp only [List.cons_append, List.append_assoc]
  exact readMembers_last (skipSpace_write h _)
    (hvalue fuel _ (by omega) (endsNumber_cons (by decide)))

theorem membersReadBack_cons {key : String} {value : Json} {next : String × Json}
    {members : List (String × Json)} (h : value.IsPlain readBound) (hvalue : value.ReadsBack)
    (hmembers : MembersReadBack (next :: members)) :
    MembersReadBack ((key, value) :: next :: members) := by
  intro fuel rest hfuel
  obtain ⟨fuel, rfl⟩ := Nat.exists_eq_add_one.2 (Nat.zero_lt_of_lt hfuel)
  obtain ⟨cs, hcs⟩ := exists_writeMembers_eq_cons (List.cons_ne_nil next members)
  have hlater := hmembers fuel rest
  rw [hcs] at hlater
  rw [writeMembers, writeMembers, toList_intercalate, ← writeMembers, hcs,
    toList_writeMember] at hfuel ⊢
  simp only [List.length_cons, List.length_append] at hfuel hlater
  simp only [List.cons_append, List.append_assoc]
  exact readMembers_more (skipSpace_write h _)
    (hvalue fuel _ (by omega) (endsNumber_cons (by decide))) rfl (hlater (by omega))

mutual

theorem IsPlain.readsBack (v : Json) (h : v.IsPlain readBound) : v.ReadsBack := by
  match v, h with
  | .null, h => exact readsBack_of_succ h fun _ _ _ _ => rfl
  | .bool false, h => exact readsBack_of_succ h fun _ _ _ _ => rfl
  | .bool true, h => exact readsBack_of_succ h fun _ _ _ _ => rfl
  | .int n, h => exact readsBack_int h
  | .str s, _ => exact readsBack_str s
  | .array [], h => exact readsBack_of_succ h fun _ _ _ _ => rfl
  | .array (item :: items), h =>
    exact readsBack_array h (List.cons_ne_nil _ _)
      (ArePlain.itemsReadBack (item :: items) h (List.cons_ne_nil _ _))
  | .object [], h => exact readsBack_of_succ h fun _ _ _ _ => rfl
  | .object (member :: members), h =>
    exact readsBack_object h (List.cons_ne_nil _ _)
      (MembersPlain.membersReadBack (member :: members) h.2 (List.cons_ne_nil _ _))

theorem ArePlain.itemsReadBack (items : List Json) (h : ArePlain readBound items)
    (hne : items ≠ []) :
    ItemsReadBack items := by
  match items, h with
  | [item], h => exact itemsReadBack_singleton (IsPlain.readsBack item h.1)
  | item :: next :: items, h =>
    exact itemsReadBack_cons h.2 (IsPlain.readsBack item h.1)
      (ArePlain.itemsReadBack (next :: items) h.2 (List.cons_ne_nil _ _))

theorem MembersPlain.membersReadBack (members : List (String × Json))
    (h : MembersPlain readBound members) (hne : members ≠ []) : MembersReadBack members := by
  match members, h with
  | [(key, value)], h => exact membersReadBack_singleton h.1 (IsPlain.readsBack value h.1)
  | (key, value) :: next :: members, h =>
    exact membersReadBack_cons h.1 (IsPlain.readsBack value h.1)
      (MembersPlain.membersReadBack (next :: members) h.2 (List.cons_ne_nil _ _))

end

/-! ## Lines -/

/-- No character of a text is a control character. -/
def IsLine (cs : List Char) : Prop := ∀ c ∈ cs, 32 ≤ c.toNat

theorem isLine_cons {c : Char} {cs : List Char} : IsLine (c :: cs) ↔ 32 ≤ c.toNat ∧ IsLine cs :=
  List.forall_mem_cons

theorem isLine_append {cs ds : List Char} : IsLine (cs ++ ds) ↔ IsLine cs ∧ IsLine ds :=
  List.forall_mem_append

theorem isLine_escapeChar (c : Char) : IsLine (escapeChar c) := by
  rw [escapeChar]
  split
  next h => rcases h with rfl | rfl <;> simp [IsLine]
  iterate 5
    split
    · simp [IsLine]
  split
  next hc =>
    rw [(hexDigits_control c.toNat hc).1]
    have hdigit : ∀ n < 16, 32 ≤ (Text.hexDigit n).toNat := by decide
    have hfirst := hdigit (c.toNat / 16) (by omega)
    have hsecond := hdigit (c.toNat % 16) (by omega)
    simp [IsLine, hfirst, hsecond]
  next hc =>
    rw [isLine_cons]
    exact ⟨by omega, List.forall_mem_nil _⟩

theorem isLine_quoted (s : String) : IsLine (quoted s).toList := by
  rw [toList_quoted, isLine_cons, isLine_append]
  refine ⟨by decide, ?_, by simp [IsLine]⟩
  intro c hc
  obtain ⟨d, -, hcd⟩ := List.mem_flatMap.1 hc
  exact isLine_escapeChar d c hcd

theorem isLine_toString_int (n : Int) : IsLine (toString n).toList := by
  rw [toList_toString_int, isLine_append]
  constructor
  · split <;> simp [IsLine]
  · intro c hc
    have hdigit := isDigit_of_mem_toDigits hc
    simp only [isDigit, Bool.and_eq_true, decide_eq_true_eq] at hdigit
    exact Nat.le_trans (by decide) (UInt32.le_iff_toNat_le.1 (Char.le_def.1 hdigit.1))

theorem isLine_intercalate {texts : List String} (h : ∀ text ∈ texts, IsLine text.toList) :
    IsLine (", ".intercalate texts).toList := by
  induction texts with
  | nil => simp [IsLine]
  | cons text texts ih =>
    rw [List.forall_mem_cons] at h
    cases texts with
    | nil => rw [String.intercalate_singleton]; exact h.1
    | cons next texts =>
      rw [toList_intercalate, isLine_append, isLine_cons, isLine_cons]
      exact ⟨h.1, by decide, by decide, ih h.2⟩

mutual

/-- The text of a value is one line. -/
theorem IsPlain.isLine_write (v : Json) (h : v.IsPlain bound) : IsLine v.write.toList := by
  match v, h with
  | .null, _ => simp [write, IsLine]
  | .bool b, _ => cases b <;> simp [write, IsLine]
  | .int n, _ => exact isLine_toString_int n
  | .str s, _ => exact isLine_quoted s
  | .array items, h =>
    rw [toList_write_array, isLine_cons, isLine_append]
    exact ⟨by decide, isLine_intercalate (ArePlain.isLine_writeItems items h), by simp [IsLine]⟩
  | .object members, h =>
    rw [toList_write_object, isLine_cons, isLine_append]
    exact ⟨by decide, isLine_intercalate (MembersPlain.isLine_writeMembers members h.2),
      by simp [IsLine]⟩

theorem ArePlain.isLine_writeItems (items : List Json) (h : ArePlain bound items) :
    ∀ text ∈ writeItems items, IsLine text.toList := by
  match items, h with
  | [], _ => exact List.forall_mem_nil _
  | item :: items, h =>
    rw [writeItems, List.forall_mem_cons]
    exact ⟨IsPlain.isLine_write item h.1, ArePlain.isLine_writeItems items h.2⟩

theorem MembersPlain.isLine_writeMembers (members : List (String × Json))
    (h : MembersPlain bound members) : ∀ text ∈ writeMembers members, IsLine text.toList := by
  match members, h with
  | [], _ => exact List.forall_mem_nil _
  | (key, value) :: members, h =>
    rw [writeMembers, List.forall_mem_cons]
    refine ⟨?_, MembersPlain.isLine_writeMembers members h.2⟩
    rw [String.toList_append, String.toList_append, isLine_append, isLine_append]
    exact ⟨⟨isLine_quoted key, by simp [IsLine]⟩, IsPlain.isLine_write value h.1⟩

end

/-- A value is read from its text, whatever white space follows it. -/
theorem readChars_write {v : Json} (h : v.IsPlain readBound) {rest : List Char}
    (hrest : EndsNumber rest) (hspace : skipSpace rest = []) :
    readChars (v.write.toList ++ rest) = .ok v := by
  obtain ⟨c, cs, hcs, -, -, -, hmark⟩ := exists_write_eq_cons h
  have hread := IsPlain.readsBack v h (2 * (v.write.toList ++ rest).length + 2) rest
    (by rw [List.length_append]; omega) hrest
  rw [readChars, if_neg, skipSpace_write h, hread]
  · simp only [hspace]
  · rw [hcs, List.cons_append, List.head?_cons, Option.some.injEq]
    exact hmark

theorem read_write {v : Json} (h : v.IsPlain readBound) : read v.write = .ok v := by
  have hchars := readChars_write h (nofun : EndsNumber []) rfl
  rw [List.append_nil] at hchars
  rw [read, hchars]

/-- The line of a value is read as the value. -/
theorem read_write_line {v : Json} (h : v.IsPlain readBound) : read (v.write ++ "\n") = .ok v := by
  have hchars := readChars_write h (endsNumber_cons (by decide) : EndsNumber ['\n']) rfl
  rw [read, String.toList_append, show "\n".toList = ['\n'] from rfl, hchars]

/-- A number of more digits than are converted is not read from its text. -/
theorem read_write_of_readBound_le {n : Nat} (h : readBound ≤ n) :
    read (Json.int n).write = .error (.tooManyDigits (Nat.toDigits 10 n).length) := by
  obtain ⟨c, cs, hcs, hc⟩ := exists_toDigits_eq_cons n
  have htext : (Json.int n).write.toList = c :: cs := by
    rw [write, toList_toString_int, if_pos (Int.natCast_nonneg n), List.nil_append,
      Int.natAbs_natCast, hcs]
  have hscalar : readScalar (c :: cs) = .error (.tooManyDigits (Nat.toDigits 10 n).length) := by
    have hnumber := readScalar_toDigits n []
    rw [readNumber_toDigits (nofun : EndsNumber []),
      if_pos (maxDigits_lt_length_toDigits_iff.2 h), List.append_nil] at hnumber
    rw [← hcs, hnumber]
  have hblank : isSpace c = false := by
    simp [isSpace, ne_of_isDigit hc (d := ' ') rfl, ne_of_isDigit hc (d := '\t') rfl,
      ne_of_isDigit hc (d := '\n') rfl, ne_of_isDigit hc (d := '\r') rfl]
  have hspace : skipSpace (c :: cs) = c :: cs :=
    List.dropWhile_cons_of_neg (by simp [hblank])
  have hmark : ¬(c :: cs).head? = some '\ufeff' := by
    rw [List.head?_cons, Option.some.injEq]
    exact ne_of_isDigit hc rfl
  have hword : c ≠ '"' ∧ c ≠ '[' ∧ c ≠ '\x7b' :=
    ⟨ne_of_isDigit hc rfl, ne_of_isDigit hc rfl, ne_of_isDigit hc rfl⟩
  rw [read, readChars, htext, if_neg hmark, hspace, readValue_of_readScalar hword, hscalar]

end CaretQuery.Json
