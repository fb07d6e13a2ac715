/-
# A run is all or nothing

A run touches the files once, at its end, and writes its file as a whole. So what stops a
run, at whatever point, leaves all files as they were. A run that is not stopped leaves the
formatted module at the output path and everything else as it was, also where the output
path leads to one of the files that the run has read.

Key definitions: `AllOrNothing`.
Key theorems: `write_ofFunction`, `generate_ofFunction`, `generate_allOrNothing`.
-/
import IdentityTypes.Generator
import IdentityTypes.Proofs.Files.Replacement
import IdentityTypes.Proofs.Text.Utf8

namespace IdentityTypes

open Files

/-- What is asked of the end of a run on the files `t` with a formatter that touches none
of them. -/
structure AllOrNothing (format : String → String → Except FormatFailure String) (s : Settings)
    (t : Tree) (r : Except GenerationError Catalog × Tree) : Prop where
  /-- A run that fails leaves the files as they were, and no temporary file. -/
  failed : ∀ e, r.1 = .error e → r.2 = t
  /-- After a run that succeeds the output path leads to what the formatter has made of
  the catalog that the run returns. -/
  written : ∀ c, r.1 = .ok c → ∃ text place,
    format (TypeScript.render s.runtimeModule c) s.output = .ok text ∧
    r.2.resolve s.output = .ok place ∧
    r.2.read s.output = .ok (Text.encode text) ∧ r.2.readText s.output = .ok text ∧
    r.2.home = t.home ∧ ∀ other, other ≠ place → r.2.find? other = t.find? other
  /-- A run succeeds where nothing stops it: the configuration has a catalog, the formatter
  does not fail, and the output path leads to where a file can be. -/
  succeeds_iff : ∀ c, r.1 = .ok c ↔ prepare s t = .ok c ∧
    (∃ text, format (TypeScript.render s.runtimeModule c) s.output = .ok text) ∧
    ∃ place, t.Destination s.output place

/-- The writing ends in one of two ways: the file is at its destination and nothing else
has changed, or nothing has. -/
theorem write_ofFunction (format : String → String → Except FormatFailure String)
    (s : Settings) (source : String) (t : Tree) :
    (∃ text place, format source s.output = .ok text ∧ t.Destination s.output place ∧
      write (.ofFunction format) s source t =
        (.ok (), t.put place (.file (Text.encode text)))) ∨
    ((∀ text, format source s.output = .ok text → ∀ place, ¬ t.Destination s.output place) ∧
      ∃ e, write (.ofFunction format) s source t = (.error e, t)) := by
  unfold write Formatter.ofFunction
  cases hformat : format source s.output with
  | error failure => exact .inr ⟨nofun, .format failure, rfl⟩
  | ok text =>
    dsimp only
    by_cases hplace : ∃ place, t.Destination s.output place
    · obtain ⟨place, hplace⟩ := hplace
      rw [Tree.replaceFile_of_destination hplace]
      exact .inl ⟨text, place, rfl, hplace, rfl⟩
    · have hnone := not_exists.mp hplace
      obtain ⟨fault, hfault⟩ := Tree.replaceFile_of_none hnone
      rw [hfault]
      exact .inr ⟨fun _ _ => hnone, .write s.output fault, rfl⟩

/-- A run ends in one of two ways. -/
theorem generate_ofFunction (format : String → String → Except FormatFailure String)
    (s : Settings) (t : Tree) :
    (∃ c text place, prepare s t = .ok c ∧
      format (TypeScript.render s.runtimeModule c) s.output = .ok text ∧
      t.Destination s.output place ∧
      generate (.ofFunction format) s t =
        (.ok c, t.put place (.file (Text.encode text)))) ∨
    ((∀ c, prepare s t = .ok c →
        ∀ text, format (TypeScript.render s.runtimeModule c) s.output = .ok text →
          ∀ place, ¬ t.Destination s.output place) ∧
      ∃ e, generate (.ofFunction format) s t = (.error e, t)) := by
  unfold generate
  cases hprepare : prepare s t with
  | error e => exact .inr ⟨nofun, e, rfl⟩
  | ok c =>
    dsimp only
    obtain ⟨text, place, hformat, hplace, hwrite⟩ | ⟨hnone, e, hwrite⟩ :=
      write_ofFunction format s (TypeScript.render s.runtimeModule c) t
    · rw [hwrite]
      exact .inl ⟨c, text, place, rfl, hformat, hplace, rfl⟩
    · rw [hwrite]
      refine .inr ⟨fun c' hc' => ?_, e, rfl⟩
      cases hc'
      exact hnone

/-- **A run is all or nothing.** -/
theorem generate_allOrNothing (format : String → String → Except FormatFailure String)
    (s : Settings) (t : Tree) :
    AllOrNothing format s t (generate (.ofFunction format) s t) := by
  obtain ⟨c, text, place, hprepare, hformat, hplace, hrun⟩ | ⟨hnone, e, hrun⟩ :=
    generate_ofFunction format s t
  · rw [hrun]
    refine ⟨nofun, fun c' hc' => ?_, fun c' => ?_⟩
    · cases hc'
      obtain ⟨hresolve, hread⟩ := hplace.read_put (Text.encode text)
      refine ⟨text, place, hformat, hresolve, hread, ?_, rfl, fun _ => Tree.find?_put_of_ne⟩
      rw [Tree.readText, hread]
      simp only [bind, Except.bind, Text.decode_encode]
    · rw [hprepare]
      constructor
      · intro hc'
        cases hc'
        exact ⟨rfl, ⟨text, hformat⟩, place, hplace⟩
      · rintro ⟨hc', -⟩
        cases hc'
        rfl
  · rw [hrun]
    refine ⟨fun _ _ => rfl, nofun, fun c => ⟨nofun, ?_⟩⟩
    rintro ⟨hprepare, ⟨text, hformat⟩, place, hplace⟩
    exact absurd hplace (hnone c hprepare text hformat place)

end IdentityTypes
