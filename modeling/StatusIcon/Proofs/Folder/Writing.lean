/-
# StatusIcon.Proofs.Folder.Writing -- what was written is read

A path leads to a place, and whatever leads to that place is a folder (`enclosed_of_locate`).  So a
file that is put there makes no folder that was not one before (`isFolder_put`): every path still
leads where it led, and the file that was written is what its path reads (`read_of_write`).  All
other files are as they were (`file?_of_write`).
-/
import StatusIcon.Folder.Basic
import StatusIcon.Proofs.Results

set_option autoImplicit false

namespace StatusIcon.Folder

variable {f : Folder}

/-! ## Places -/

/-- Every place on the way is a folder. -/
def Enclosed (f : Folder) (place : List String) : Prop :=
  ∀ outer, outer <+: place → outer ≠ place → f.isFolder outer = true

theorem enclosed_nil : f.Enclosed [] := by
  intro outer leads other
  exact absurd (List.prefix_nil.mp leads) other

theorem enclosed_here : f.Enclosed f.here := by
  intro outer leads _
  simp only [isFolder, List.isPrefixOf_iff_prefix.mpr leads, Bool.true_or]

theorem Enclosed.concat {place : List String} (enclosed : f.Enclosed place)
    (folder : f.isFolder place = true) (step : String) : f.Enclosed (place ++ [step]) := by
  intro outer leads other
  rcases List.prefix_concat_iff.mp leads with rfl | leads
  · exact absurd rfl other
  · by_cases last : outer = place
    · rw [last, folder]
    · exact enclosed outer leads last

theorem Enclosed.dropLast {place : List String} (enclosed : f.Enclosed place) :
    f.Enclosed place.dropLast := by
  intro outer leads other
  refine enclosed outer (leads.trans (List.dropLast_prefix place)) ?_
  rintro rfl
  exact other (leads.eq_of_length_le (by simp))

theorem enclosed_of_walk {start place : List String} {steps : List String}
    (enclosed : f.Enclosed start) (leads : f.walk start steps = .ok place) : f.Enclosed place := by
  induction steps generalizing start with
  | nil =>
      obtain rfl := Except.ok.inj leads
      exact enclosed
  | cons step steps ih =>
      unfold walk at leads
      split at leads
      · next folder =>
          split at leads
          · exact ih enclosed.dropLast leads
          · exact ih (enclosed.concat folder step) leads
      · split at leads <;> cases leads

theorem enclosed_of_locate {path : String} {place : List String}
    (leads : f.locate path = .ok place) : f.Enclosed place := by
  unfold locate at leads
  split at leads
  · cases leads
  split at leads
  · exact enclosed_of_walk enclosed_nil leads
  · exact enclosed_of_walk enclosed_here leads

/-! ## Files -/

variable {place : List String} {bytes : List UInt8}

theorem file?_put_self : (f.put place bytes).file? place = some bytes := by
  simp [file?, put]

theorem lookup_filter_ne {other : List String} (different : other ≠ place)
    (files : List (List String × List UInt8)) :
    (files.filter fun (key, _) => key ≠ place).lookup other = files.lookup other := by
  induction files with
  | nil => rfl
  | cons file files ih =>
      by_cases same : file.1 = place
      · have skipped : (other == file.1) = false := beq_false_of_ne (same ▸ different)
        rw [List.filter_cons_of_neg (by simpa using same), ih, List.lookup_cons, skipped]
      · rw [List.filter_cons_of_pos (by simpa using same), List.lookup_cons, List.lookup_cons, ih]

theorem file?_put_of_ne {other : List String} (different : other ≠ place) :
    (f.put place bytes).file? other = f.file? other := by
  have skipped : (other == place) = false := beq_false_of_ne different
  simp only [file?, put, List.lookup_cons, skipped]
  exact lookup_filter_ne different f.files

/-- A file that is put where a path led to makes no new folder. -/
theorem isFolder_put (enclosed : f.Enclosed place) (outer : List String) :
    (f.put place bytes).isFolder outer = f.isFolder outer := by
  rw [Bool.eq_iff_iff]
  simp only [isFolder, put, Bool.or_eq_true, List.any_eq_true, List.mem_cons, List.mem_filter,
    Bool.and_eq_true, decide_eq_true_eq, List.isPrefixOf_iff_prefix]
  constructor
  · rintro (others | ⟨file, rfl | ⟨known, -⟩, leads, different⟩)
    · exact .inl others
    · -- the new file makes folders only of places on the way to it, which are some already
      have folder := enclosed outer leads different
      simpa only [isFolder, Bool.or_eq_true, List.any_eq_true, Bool.and_eq_true, decide_eq_true_eq,
        List.isPrefixOf_iff_prefix] using folder
    · exact .inr ⟨file, known, leads, different⟩
  · rintro (others | ⟨file, known, leads, different⟩)
    · exact .inl others
    · by_cases same : file.1 = place
      · exact .inr ⟨(place, bytes), .inl rfl, same ▸ leads, same ▸ different⟩
      · exact .inr ⟨file, .inr ⟨known, same⟩, leads, different⟩

theorem walk_put (enclosed : f.Enclosed place) {start reached : List String} {steps : List String}
    (leads : f.walk start steps = .ok reached) :
    (f.put place bytes).walk start steps = .ok reached := by
  induction steps generalizing start with
  | nil => exact leads
  | cons step steps ih =>
      simp only [walk, isFolder_put enclosed] at leads ⊢
      split
      · next folder =>
          rw [if_pos folder] at leads
          split
          · next up =>
              rw [if_pos up] at leads
              exact ih leads
          · next down =>
              rw [if_neg down] at leads
              exact ih leads
      · next blocked =>
          rw [if_neg blocked] at leads
          split at leads <;> cases leads

theorem locate_put (enclosed : f.Enclosed place) {path : String} {reached : List String}
    (leads : f.locate path = .ok reached) : (f.put place bytes).locate path = .ok reached := by
  unfold locate at leads ⊢
  split at leads
  · cases leads
  · next named =>
      rw [if_neg named]
      exact walk_put enclosed leads

/-! ## Writing -/

/-- A write puts a file where the path leads to, and that is no folder. -/
theorem exists_put_of_write {path : String} {g : Folder} (written : f.write path bytes = .ok g) :
    ∃ place, f.locate path = .ok place ∧ f.isFolder place = false ∧
      Path.endsAtFolder path = false ∧ g = f.put place bytes := by
  unfold write at written
  obtain ⟨place, leads, written⟩ := bind_eq_ok_iff.mp written
  split at written
  · cases written
  next file =>
    split at written
    · split at written <;> cases written
    next named =>
      exact ⟨place, leads, Bool.eq_false_iff.mpr file, Bool.eq_false_iff.mpr named,
        (Except.ok.inj written).symm⟩

/-- Whether a write works does not depend on the bytes. -/
theorem exists_write {path : String} {g : Folder} (written : f.write path bytes = .ok g)
    (others : List UInt8) : ∃ h, f.write path others = .ok h := by
  obtain ⟨place, leads, file, named, -⟩ := exists_put_of_write written
  refine ⟨f.put place others, ?_⟩
  simp only [write, leads, bind, Except.bind, file, named, Bool.false_eq_true, reduceIte]

/-- What was written to a path is what is read from it. -/
theorem read_of_write {path : String} {g : Folder} (written : f.write path bytes = .ok g) :
    g.read path = .ok bytes := by
  obtain ⟨place, leads, file, named, rfl⟩ := exists_put_of_write written
  have enclosed := enclosed_of_locate leads
  simp only [read, locate_put enclosed leads, bind, Except.bind, isFolder_put enclosed, file,
    file?_put_self, named, Bool.false_eq_true, reduceIte]

/-- A write leaves every other file as it was. -/
theorem file?_of_write {path : String} {g : Folder} (written : f.write path bytes = .ok g)
    {other : List String} (elsewhere : f.locate path ≠ .ok other) :
    g.file? other = f.file? other := by
  obtain ⟨place, leads, -, -, rfl⟩ := exists_put_of_write written
  apply file?_put_of_ne
  rintro rfl
  exact elsewhere leads

end StatusIcon.Folder
