/-
# The case of ASCII names

In ASCII a letter changes into one letter and nothing depends on its neighbours, so that
case can be put off and on again. The name that a type takes from an ASCII name has the
letters of this name in their order, without the delimiters. It is also the name that a
value takes, with a capital where that begins, whatever words the name falls into. So names
of objects that make the same name of a type differ in case and delimiters only.

Key definitions: `withCapital`, `letters`.
Key theorems: `map_toLower_upperCamel`, `upperCamel_eq_withCapital`, `typeName_eq_withCapital`,
`names_keepLetters`.
-/
import IdentityTypes.Proofs.Name.Words

namespace IdentityTypes.Name

open Text

/-! ### Letters -/

/-- What holds of the first 128 characters holds of ASCII. -/
theorem forall_ascii {P : Char → Prop} (h : ∀ n < 128, P (Char.ofNat n)) {c : Char}
    (hc : isAscii c = true) : P c := by
  have hlt : c.toNat < 128 := of_decide_eq_true hc
  have hp := h c.toNat hlt
  rwa [Char.ofNat_toNat] at hp

section

variable {c : Char}

theorem lowerChar_of_ascii (h : isAscii c = true) : lowerChar c = [c.toLower] :=
  forall_ascii (P := fun c => lowerChar c = [c.toLower]) (by decide +kernel) h

theorem upperChar_of_ascii (h : isAscii c = true) : upperChar c = [c.toUpper] :=
  forall_ascii (P := fun c => upperChar c = [c.toUpper]) (by decide +kernel) h

/-- A change of case stays inside ASCII. -/
theorem isAscii_toCase (h : isAscii c = true) :
    isAscii c.toUpper = true ∧ isAscii c.toLower = true :=
  forall_ascii (P := fun c => isAscii c.toUpper = true ∧ isAscii c.toLower = true) (by decide) h

/-- Only the last change of case counts. -/
theorem toLower_toCase (h : isAscii c = true) :
    c.toUpper.toLower = c.toLower ∧ c.toLower.toLower = c.toLower :=
  forall_ascii (P := fun c => c.toUpper.toLower = c.toLower ∧ c.toLower.toLower = c.toLower)
    (by decide) h

theorem toUpper_toCase (h : isAscii c = true) :
    c.toUpper.toUpper = c.toUpper ∧ c.toLower.toUpper = c.toUpper :=
  forall_ascii (P := fun c => c.toUpper.toUpper = c.toUpper ∧ c.toLower.toUpper = c.toUpper)
    (by decide) h

end

/-! ### Words -/

theorem isAscii_append {cs ds : List Char} : IsAscii (cs ++ ds) ↔ IsAscii cs ∧ IsAscii ds :=
  List.forall_mem_append

theorem lowerFrom_of_ascii : ∀ {cs before : List Char}, IsAscii cs →
    lowerFrom before cs = cs.map Char.toLower
  | [], _, _ => rfl
  | c :: cs, before, h => by
    obtain ⟨hc, hcs⟩ := List.forall_mem_cons.mp h
    have hsigma : c ≠ 'Σ' := fun he => absurd (he ▸ hc) (by decide)
    rw [lowerFrom, if_neg hsigma, lowerChar_of_ascii hc, lowerFrom_of_ascii hcs]
    rfl

theorem lower_of_ascii {cs : List Char} (h : IsAscii cs) : lower cs = cs.map Char.toLower :=
  lowerFrom_of_ascii h

theorem capitalize_of_ascii {c : Char} {cs : List Char} (h : IsAscii (c :: cs)) :
    capitalize (c :: cs) = c.toUpper :: cs.map Char.toLower := by
  obtain ⟨hc, hcs⟩ := List.forall_mem_cons.mp h
  rw [capitalize, upperChar_of_ascii hc, lower_of_ascii hcs]
  rfl

theorem map_toLower_toLower {cs : List Char} (h : IsAscii cs) :
    (cs.map Char.toLower).map Char.toLower = cs.map Char.toLower := by
  rw [List.map_map]
  exact List.map_congr_left fun c hc => (toLower_toCase (h c hc)).2

theorem isAscii_map_toLower {cs : List Char} (h : IsAscii cs) : IsAscii (cs.map Char.toLower) :=
  List.forall_mem_map.mpr fun c hc => (isAscii_toCase (h c hc)).2

theorem isAscii_capitalize {w : List Char} (h : IsAscii w) : IsAscii (capitalize w) := by
  cases w with
  | nil => exact h
  | cons c cs =>
    obtain ⟨hc, hcs⟩ := List.forall_mem_cons.mp h
    rw [capitalize_of_ascii h]
    exact List.forall_mem_cons.mpr ⟨(isAscii_toCase hc).1, isAscii_map_toLower hcs⟩

theorem map_toLower_capitalize {w : List Char} (h : IsAscii w) :
    (capitalize w).map Char.toLower = w.map Char.toLower := by
  cases w with
  | nil => rfl
  | cons c cs =>
    obtain ⟨hc, hcs⟩ := List.forall_mem_cons.mp h
    rw [capitalize_of_ascii h, List.map_cons, List.map_cons, (toLower_toCase hc).1,
      map_toLower_toLower hcs]

/-- No case is outside ASCII, and putting it off gives the letters of the words. -/
theorem map_toLower_upperCamel : ∀ {ws : List (List Char)}, IsAscii ws.flatten →
    IsAscii (upperCamel ws) ∧ (upperCamel ws).map Char.toLower = ws.flatten.map Char.toLower
  | [], h => ⟨h, rfl⟩
  | w :: ws, h => by
    rw [List.flatten_cons] at h
    obtain ⟨hw, hws⟩ := isAscii_append.mp h
    obtain ⟨hascii, hlower⟩ := map_toLower_upperCamel hws
    have hcons : upperCamel (w :: ws) = capitalize w ++ upperCamel ws := List.flatMap_cons
    rw [hcons, List.flatten_cons, List.map_append, List.map_append, map_toLower_capitalize hw,
      hlower]
    exact ⟨isAscii_append.mpr ⟨isAscii_capitalize hw, hascii⟩, rfl⟩

theorem map_toLower_lowerCamel {ws : List (List Char)} (h : IsAscii ws.flatten) :
    IsAscii (lowerCamel ws) ∧ (lowerCamel ws).map Char.toLower = ws.flatten.map Char.toLower := by
  cases ws with
  | nil => exact ⟨h, rfl⟩
  | cons w ws =>
    rw [List.flatten_cons] at h
    obtain ⟨hw, hws⟩ := isAscii_append.mp h
    obtain ⟨hascii, hlower⟩ := map_toLower_upperCamel hws
    rw [lowerCamel, List.flatten_cons, List.map_append, List.map_append, lower_of_ascii hw,
      map_toLower_toLower hw, hlower]
    exact ⟨isAscii_append.mpr ⟨isAscii_map_toLower hw, hascii⟩, rfl⟩

/-! ### Types and values -/

/-- The text with a capital at its beginning, and otherwise as it is. -/
def withCapital : List Char → List Char
  | [] => []
  | c :: cs => c.toUpper :: cs

/-- The words that a name falls into are not empty. -/
theorem ne_nil_of_wordsOf {cs : List Char} {ws : List (List Char)} (h : wordsOf cs = some ws) :
    ∀ w ∈ ws, w ≠ [] := by
  simp only [wordsOf, Option.bind_eq_bind, Option.bind_eq_some_iff, Option.pure_def,
    Option.some.injEq] at h
  obtain ⟨pieces, -, words, -, rfl⟩ := h
  intro w hw hnil
  exact absurd (List.mem_filter.mp hw).2 (by simp [hnil])

theorem upperCamel_cons {c : Char} {cs : List Char} (h : IsAscii (c :: cs))
    (ws : List (List Char)) :
    upperCamel ((c :: cs) :: ws) = c.toUpper :: (cs.map Char.toLower ++ upperCamel ws) := by
  have hcons : upperCamel ((c :: cs) :: ws) = capitalize (c :: cs) ++ upperCamel ws :=
    List.flatMap_cons
  rw [hcons, capitalize_of_ascii h, List.cons_append]

section

variable {ws : List (List Char)}

/-- The words of a value are those of a type, only that the first one is small. -/
theorem upperCamel_eq_withCapital (hne : ∀ w ∈ ws, w ≠ []) (h : IsAscii ws.flatten) :
    upperCamel ws = withCapital (lowerCamel ws) := by
  match ws with
  | [] => rfl
  | [] :: _ => exact absurd rfl (hne [] List.mem_cons_self)
  | (c :: cs) :: ws =>
    rw [List.flatten_cons] at h
    have hw : IsAscii (c :: cs) := (isAscii_append.mp h).1
    rw [upperCamel_cons hw, lowerCamel, lower_of_ascii hw, List.map_cons, List.cons_append,
      withCapital, (toUpper_toCase (hw c List.mem_cons_self)).2]

/-- There is a capital already. -/
theorem withCapital_upperCamel (hne : ∀ w ∈ ws, w ≠ []) (h : IsAscii ws.flatten) :
    withCapital (upperCamel ws) = upperCamel ws := by
  match ws with
  | [] => rfl
  | [] :: _ => exact absurd rfl (hne [] List.mem_cons_self)
  | (c :: cs) :: ws =>
    rw [List.flatten_cons] at h
    have hw : IsAscii (c :: cs) := (isAscii_append.mp h).1
    rw [upperCamel_cons hw, withCapital, (toUpper_toCase (hw c List.mem_cons_self)).1]

end

section

variable {name n : String}

theorem typeName_eq_some : typeName name = some n ↔
    ∃ ws, wordsOf name.toList = some ws ∧ String.ofList (upperCamel ws) = n :=
  Option.map_eq_some_iff

theorem valueName_eq_some : valueName name = some n ↔
    ∃ ws, wordsOf name.toList = some ws ∧ String.ofList (lowerCamel ws) = n :=
  Option.map_eq_some_iff

/-- An ASCII name falls into words with its characters but the delimiters. -/
theorem flatten_of_wordsOf {cs : List Char} {ws : List (List Char)} (h : IsAscii cs)
    (hws : wordsOf cs = some ws) : ws.flatten = cs.filter (!isDelimiter ·) ∧ IsAscii ws.flatten := by
  obtain ⟨ws', hws', hflat⟩ := wordsOf_of_ascii h
  obtain rfl : ws = ws' := Option.some.inj (hws.symm.trans hws')
  refine ⟨hflat, ?_⟩
  rw [hflat]
  exact fun c hc => h c (List.mem_of_mem_filter hc)

/-- A type takes its name from the value's, with a capital; a name that has one is left as
it is. -/
theorem typeName_eq_withCapital (h : IsAscii name.toList) (hn : typeName name = some n) :
    withCapital n.toList = n.toList ∧
      ∀ v, valueName name = some v → n.toList = withCapital v.toList := by
  obtain ⟨ws, hws, rfl⟩ := typeName_eq_some.mp hn
  have hne := ne_nil_of_wordsOf hws
  have hascii := (flatten_of_wordsOf h hws).2
  rw [String.toList_ofList]
  refine ⟨withCapital_upperCamel hne hascii, fun v hv => ?_⟩
  obtain ⟨ws', hws', rfl⟩ := valueName_eq_some.mp hv
  obtain rfl : ws = ws' := Option.some.inj (hws.symm.trans hws')
  rw [String.toList_ofList]
  exact upperCamel_eq_withCapital hne hascii

end

/-! ### Letters kept -/

/-- The characters of a name but its delimiters, in lower case. -/
def letters (name : String) : List Char := lower (name.toList.filter (!isDelimiter ·))

section

variable {name n : String}

/-- In whatever case the words of a name are put together, its letters are kept. -/
theorem lower_eq_letters (h : IsAscii name.toList) {ws : List (List Char)}
    (hws : wordsOf name.toList = some ws) {cs : List Char}
    (hcs : IsAscii cs ∧ cs.map Char.toLower = ws.flatten.map Char.toLower) :
    lower cs = letters name := by
  obtain ⟨hflat, hascii⟩ := flatten_of_wordsOf h hws
  rw [letters, ← hflat, lower_of_ascii hcs.1, lower_of_ascii hascii, hcs.2]

theorem lower_typeName (h : IsAscii name.toList) (hn : typeName name = some n) :
    lower n.toList = letters name := by
  obtain ⟨ws, hws, rfl⟩ := typeName_eq_some.mp hn
  have hascii := (flatten_of_wordsOf h hws).2
  rw [String.toList_ofList]
  exact lower_eq_letters h hws (map_toLower_upperCamel hascii)

theorem lower_valueName (h : IsAscii name.toList) (hn : valueName name = some n) :
    lower n.toList = letters name := by
  obtain ⟨ws, hws, rfl⟩ := valueName_eq_some.mp hn
  have hascii := (flatten_of_wordsOf h hws).2
  rw [String.toList_ofList]
  exact lower_eq_letters h hws (map_toLower_lowerCamel hascii)

/-- The name of a type tells the name that it takes from an object. -/
theorem typeName_eq_of_managedTypeName {other : String}
    (h : managedTypeName other = managedTypeName name) : typeName other = typeName name := by
  have hmap : ∀ object, managedTypeName object = (typeName object).map ("Managed" ++ ·) := by
    intro object
    unfold managedTypeName
    cases typeName object <;> rfl
  have hinjective : Function.Injective ("Managed" ++ · : String → String) := by
    intro s t hst
    have hlist := congrArg String.toList hst
    rw [String.toList_append, String.toList_append] at hlist
    exact String.toList_inj.mp (List.append_cancel_left hlist)
  rw [hmap, hmap] at h
  exact Option.map_injective hinjective h

/-- **Names keep their letters.** An ASCII name has words, so that types and values can be
named after it. In lower case both names have the characters of the name but its delimiters,
in their order, and the name of the type is that of the value with a capital at its
beginning. Two such names of objects can make the same name of a type only if they have the
same letters. -/
theorem names_keepLetters (h : IsAscii name.toList) :
    ∃ t v, typeName name = some t ∧ valueName name = some v ∧
      lower t.toList = letters name ∧ lower v.toList = letters name ∧
      t.toList = withCapital v.toList ∧
      ∀ other : String, IsAscii other.toList →
        managedTypeName other = managedTypeName name → letters other = letters name := by
  obtain ⟨t, ht⟩ := exists_typeName_of_ascii h
  obtain ⟨v, hv⟩ := exists_valueName_of_ascii h
  have hlower := lower_typeName h ht
  refine ⟨t, v, ht, hv, hlower, lower_valueName h hv, (typeName_eq_withCapital h ht).2 v hv, ?_⟩
  intro other hother hsame
  have htype : typeName other = some t := (typeName_eq_of_managedTypeName hsame).trans ht
  rw [← hlower, lower_typeName hother htype]

end

/-- A name with delimiters, digits and several capitals, and one without delimiters that makes
the same name of a type. -/
theorem names_keepLetters_scripted :
    IsAscii "_scripted_SQL-Group2".toList ∧ IsAscii "scriptedSqlGroup2".toList ∧
      managedTypeName "scriptedSqlGroup2" = managedTypeName "_scripted_SQL-Group2" ∧
      (∃ t v, typeName "_scripted_SQL-Group2" = some t ∧
        valueName "_scripted_SQL-Group2" = some v ∧
        lower t.toList = letters "_scripted_SQL-Group2" ∧
        lower v.toList = letters "_scripted_SQL-Group2" ∧ t.toList = withCapital v.toList) ∧
      letters "scriptedSqlGroup2" = letters "_scripted_SQL-Group2" := by
  have hscripted : IsAscii "_scripted_SQL-Group2".toList := by decide
  have hother : IsAscii "scriptedSqlGroup2".toList := by decide
  have hsame : managedTypeName "scriptedSqlGroup2" = managedTypeName "_scripted_SQL-Group2" := by
    decide +kernel
  obtain ⟨t, v, ht, hv, htype, hvalue, hcapital, hletters⟩ := names_keepLetters hscripted
  exact ⟨hscripted, hother, hsame, ⟨t, v, ht, hv, htype, hvalue, hcapital⟩,
    hletters _ hother hsame⟩

end IdentityTypes.Name
