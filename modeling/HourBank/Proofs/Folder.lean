import HourBank.Folder

/-! Reading a file of a folder by its path: what stands at a place, how a path leads there step by
step, and which bytes are a text. -/

namespace HourBank

theorem decodeText_eq_ok_iff {bytes : ByteArray} {t : Text} :
    decodeText bytes = .ok t ↔ bytes = t.utf8Encode := by
  unfold decodeText String.fromUTF8?
  by_cases hvalid : bytes.IsValidUTF8
  · rw [dif_pos hvalid]
    constructor
    · rintro ⟨⟩
      rw [← String.toByteArray_ofList, String.ofList_toList]
      rfl
    · rintro rfl
      exact congrArg Except.ok (String.toList_ofList (l := t))
  · rw [dif_neg hvalid]
    constructor
    · exact nofun
    · rintro rfl
      exact absurd (.intro t rfl) hvalid

theorem decodeText_eq_error {bytes : ByteArray} (h : ∀ t : Text, bytes ≠ t.utf8Encode) :
    decodeText bytes = .error .notText := by
  have hinvalid : ¬ bytes.IsValidUTF8 := by
    rintro ⟨t, ht⟩
    exact h t ht
  simp only [decodeText, String.fromUTF8?, dif_neg hinvalid]

namespace Folder

variable {f : Folder}

theorem node?_of_last {earlier later : List (Text × ByteArray)} {name : Text} {bytes : ByteArray}
    (hfiles : f.files = earlier ++ (name, bytes) :: later)
    (hlast : ∀ file ∈ later, steps file.1 ≠ steps name) :
    f.node? (steps name) = some (.file bytes) := by
  have hlater : later.reverse.find? (steps ·.1 = steps name) = none := by
    simpa using hlast
  have hfind : f.files.reverse.find? (steps ·.1 = steps name) = some (name, bytes) := by
    simp [hfiles, hlater]
  rw [node?, hfind]

theorem node?_of_no_file {place : List Text} (h : ∀ file ∈ f.files, steps file.1 ≠ place) :
    f.node? place =
      if place = [] ∨ f.files.any (fun file => place.isPrefixOf (steps file.1)) then some .folder
      else none := by
  have hfind : f.files.reverse.find? (steps ·.1 = place) = none := by
    simpa using h
  rw [node?, hfind]

theorem node?_eq_none_iff {place : List Text} :
    f.node? place = none ↔ place ≠ [] ∧ ∀ file ∈ f.files, ¬ place <+: steps file.1 := by
  constructor
  · intro h
    have hfind : f.files.reverse.find? (steps ·.1 = place) = none := by
      unfold node? at h
      split at h
      · cases h
      · assumption
    have hno : ∀ file ∈ f.files, steps file.1 ≠ place := by simpa using hfind
    rw [node?_of_no_file hno] at h
    simpa using h
  · rintro ⟨hne, hno⟩
    rw [node?_of_no_file fun file hfile hsteps => hno file hfile (hsteps ▸ List.prefix_rfl)]
    simpa [hne] using hno

/-- The path starts in the folder and goes down step by step, through folders, to what may be a
file. -/
structure LeadsDown (f : Folder) (path : Text) : Prop where
  nonempty : path ≠ []
  relative : path.head? ≠ some '/'
  toFile : asksForFolder path = false
  down : ['.', '.'] ∉ steps path
  folders : ∀ n < (steps path).length, f.node? ((steps path).take n) = some .folder

theorem follow_down {place rest : List Text} (hdown : ['.', '.'] ∉ rest)
    (hfolders : ∀ n < rest.length, f.node? (place.reverse ++ rest.take n) = some .folder) :
    f.follow place false rest = (f.node? (place.reverse ++ rest)).elim (.error .notFound) .ok := by
  induction rest generalizing place with
  | nil => simp [follow]
  | cons step rest ih =>
    have hhere : f.node? place.reverse = some .folder := by
      simpa using hfolders 0 (by simp)
    have hstep : step ≠ ['.', '.'] := by
      rintro rfl
      simp at hdown
    have hnext : f.follow place false (step :: rest) = f.follow (step :: place) false rest := by
      rw [follow.eq_def]
      simp only [Bool.false_eq_true, if_false, hhere]
      split
      · exact absurd rfl hstep
      · exact absurd rfl hstep
      · rfl
    have hrest : ∀ n < rest.length,
        f.node? ((step :: place).reverse ++ rest.take n) = some .folder := by
      intro n hn
      have hfolder := hfolders (n + 1) (Nat.succ_lt_succ hn)
      simpa using hfolder
    rw [hnext, ih (List.not_mem_of_not_mem_cons hdown) hrest, List.reverse_cons, List.append_assoc,
      List.singleton_append]

/-- What is read at the end of a path that leads down. -/
theorem read_of_leadsDown {path : Text} (h : f.LeadsDown path) :
    f.read path = match f.node? (steps path) with
      | none => .error .notFound
      | some .folder => .error .isFolder
      | some (.file bytes) => decodeText bytes := by
  have hfollow : f.follow [] false (steps path) =
      (f.node? (steps path)).elim (.error .notFound) .ok :=
    follow_down h.down h.folders
  have hresolve : f.resolve path = (f.node? (steps path)).elim (.error .notFound) .ok := by
    simp only [resolve, h.nonempty, h.relative, h.toFile, decide_false, if_false, hfollow]
    cases f.node? (steps path) with
    | none => rfl
    | some node => cases node <;> rfl
  rw [read, hresolve]
  cases f.node? (steps path) with
  | none => rfl
  | some node => cases node <;> rfl

end Folder

end HourBank
