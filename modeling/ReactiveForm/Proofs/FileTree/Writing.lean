import ReactiveForm.FileTree.Basic
import ReactiveForm.Proofs.Except

/-!
# `ReactiveForm.Proofs.FileTree.Writing` — what has been written is found again

A file is written at the place at the end of a path, where there is no directory. So the way to that place,
which leads through directories, is the same after the file has been written, and the path leads to it.

## Contents
- `FileTree.walk_put`, the way along directories stays when a place is filled that is none.
- `FileTree.write_spec`, where a file is written, and `FileTree.read_of_write`, that it is found there.
-/

namespace ReactiveForm

namespace FileTree

variable {t t' : FileTree} {place target : Place} {e : Entry}

/-! ## Steps -/

theorem step_eq_ok_iff {name : String} : t.step place name = .ok target ↔
    t.get? place = some .directory ∧
      (if name = "." then target = place
      else if name = ".." then target = place.dropLast
      else Path.isTooLongName name = false ∧ target = place ++ [name]) := by
  unfold step
  split
  · next h =>
    rw [h]
    by_cases hdot : name = "."
    · simp [hdot, eq_comm]
    · by_cases hup : name = ".."
      · simp [hup, eq_comm]
      · cases hlong : Path.isTooLongName name <;> simp [hdot, hup, eq_comm]
  · next entry hne h =>
    rw [h]
    refine ⟨nofun, fun ⟨hd, _⟩ => ?_⟩
    exact absurd (Option.some.inj hd) hne
  · next h =>
    rw [h]
    exact ⟨nofun, fun ⟨hd, _⟩ => nomatch hd⟩

/-- A place that is no directory is not left by any step, so that it can be filled. -/
theorem step_put {filled : Place} (hfilled : t.get? filled ≠ some .directory) {name : String}
    (h : t.step place name = .ok target) : (t.put filled e).step place name = .ok target := by
  obtain ⟨hdirectory, hname⟩ := step_eq_ok_iff.mp h
  refine step_eq_ok_iff.mpr ⟨?_, hname⟩
  have hne : place ≠ filled := by
    rintro rfl
    exact hfilled hdirectory
  rw [get?_put, if_neg hne, hdirectory]
  split <;> rfl

/-- **The way along directories stays** when a place is filled that is none. -/
theorem walk_put {filled : Place} (hfilled : t.get? filled ≠ some .directory) {names : List String}
    (h : t.walk place names = .ok target) : (t.put filled e).walk place names = .ok target := by
  induction names generalizing place with
  | nil => exact h
  | cons name names ih =>
    unfold walk at h ⊢
    rw [List.foldlM_cons] at h ⊢
    obtain ⟨next, hstep, hrest⟩ := bind_eq_ok_iff.mp h
    exact bind_eq_ok_iff.mpr ⟨next, step_put hfilled hstep, ih hrest⟩

theorem walk_concat {names : List String} {name : String} :
    t.walk place (names ++ [name]) = .ok target ↔
      ∃ middle, t.walk place names = .ok middle ∧ t.step middle name = .ok target := by
  unfold walk
  rw [List.foldlM_append, bind_eq_ok_iff]
  simp

theorem follow_eq_ok_iff {p : Path} {names : List String} :
    t.follow p names = .ok target ↔
      p.text.isEmpty = false ∧ p.isTooLong = false ∧ t.walk (t.start p) names = .ok target := by
  unfold follow
  cases p.text.isEmpty with
  | true => exact ⟨nofun, fun ⟨h, _⟩ => nomatch h⟩
  | false =>
    cases p.isTooLong with
    | true => exact ⟨nofun, fun ⟨_, h, _⟩ => nomatch h⟩
    | false => exact ⟨fun h => ⟨rfl, rfl, h⟩, fun ⟨_, _, h⟩ => h⟩

/-! ## Writing -/

/-- **A file is written at the end of its path**, where there is no directory, and nowhere else. -/
theorem write_spec {p : Path} {content : String} (h : t.write p content = .ok t') :
    ∃ place, t.follow p p.steps = .ok place ∧ t.get? place ≠ some .directory ∧ p.endsInSlash = false ∧
      t' = t.put place (.text content) := by
  unfold write writeEntry at h
  obtain ⟨directory, hholder, h⟩ := bind_eq_ok_iff.mp h
  cases hslash : p.endsInSlash with
  | true =>
    rw [hslash] at h
    cases h
  | false =>
    rw [hslash] at h
    cases hlast : p.lastName? with
    | none =>
      rw [hlast] at h
      cases h
    | some name =>
      rw [hlast] at h
      obtain ⟨place, hplace, h⟩ := bind_eq_ok_iff.mp h
      obtain ⟨hname, -⟩ := Option.filter_eq_some_iff.mp hlast
      obtain ⟨hempty, hlong, hwalk⟩ := follow_eq_ok_iff.mp hholder
      obtain ⟨middle, hmiddle, hstay⟩ := walk_concat.mp hwalk
      obtain rfl : directory = middle := (step_eq_ok_iff.mp hstay).2
      -- the file stands where the last name leads from the directory that the names before it lead to
      have hsteps : p.steps = p.steps.dropLast ++ [name] := by
        obtain ⟨names, hnames⟩ := List.getLast?_eq_some_iff.mp hname
        rw [hnames, List.dropLast_concat]
      refine ⟨place, follow_eq_ok_iff.mpr ⟨hempty, hlong, ?_⟩, ?_⟩
      · rw [hsteps]
        exact walk_concat.mpr ⟨directory, hmiddle, hplace⟩
      · split at h
        · cases h
        · next hne => exact ⟨hne, rfl, (Except.ok.inj h).symm⟩

/-- A file that has been written is found. -/
theorem find_of_write {p : Path} {content : String} (h : t.write p content = .ok t') :
    t'.find p = .ok (.text content) := by
  obtain ⟨place, hfollow, hdirectory, hslash, rfl⟩ := write_spec h
  obtain ⟨hempty, hlong, hwalk⟩ := follow_eq_ok_iff.mp hfollow
  have hroot : place ≠ [] := by
    rintro rfl
    exact hdirectory rfl
  unfold find
  refine bind_eq_ok_iff.mpr ⟨place, follow_eq_ok_iff.mpr ⟨hempty, hlong, walk_put hdirectory hwalk⟩, ?_⟩
  rw [get?_put, if_neg hroot, if_pos rfl]
  simp [hslash]
  rfl

theorem contains_of_write {p : Path} {content : String} (h : t.write p content = .ok t') :
    t'.contains p = true := by
  unfold contains
  rw [find_of_write h]
  rfl

/-- **What has been written is read.** -/
theorem read_of_write {p : Path} {content : String} (h : t.write p content = .ok t') :
    t'.read p = .ok content := by
  unfold read
  rw [find_of_write h]
  rfl

end FileTree

end ReactiveForm
