import SeriesCluster.Storage.Place

namespace SeriesCluster.FileEffect

variable {files found : Files}

/-- Whether all files but one have the same bytes. -/
def SameBut (name : String) (files found : Files) : Prop :=
  ∀ k, k ≠ name → bytesIn found k = bytesIn files k

theorem SameBut.refl (name : String) (files : Files) : SameBut name files files := fun _ _ => rfl

theorem sameBut_write (name : String) (bytes : List UInt8) (files : Files) :
    SameBut name files ((write name bytes).on files) := by
  intro k other
  rw [bytesIn_on_write, if_neg other]

namespace Interrupted

theorem of_nil (crash : Interrupted [] files found) : found = files := by
  cases crash
  rfl

/-- A crash during effects in a row is one during the first of them, or one during the others. -/
theorem of_append {first later : List FileEffect}
    (crash : Interrupted (first ++ later) files found) :
    Interrupted first files found ∨ Interrupted later (FileEffect.all files first) found := by
  induction first generalizing files with
  | nil => exact .inr crash
  | cons e first ih =>
    cases crash with
    | untouched => exact .inl .untouched
    | cut k => exact .inl (.cut k)
    | later rest =>
      rcases ih rest with before | after
      · exact .inl (.later before)
      · exact .inr after

/-- A file that is being replaced is not touched until all is done. -/
theorem of_replace {name temporary : String} {bytes : List UInt8}
    (crash : Interrupted (replace name temporary bytes) files found) :
    SameBut temporary files found ∨
      found = FileEffect.all files (replace name temporary bytes) := by
  have written : SameBut temporary files ((write temporary bytes).on files) := sameBut_write _ _ _
  cases crash with
  | untouched => exact .inl (.refl _ _)
  | cut k => exact .inl (sameBut_write temporary (bytes.take k) files)
  | later rest =>
    cases rest with
    | untouched => exact .inl written
    | cut k => exact .inl written
    | later rest => exact .inr rest.of_nil

theorem of_appending {name : String} {bytes : List UInt8}
    (crash : Interrupted [append name bytes] files found) :
    SameBut name files found ∧
      ∃ k, (bytesIn found name).getD [] = (bytesIn files name).getD [] ++ bytes.take k := by
  have appended : ∀ part, SameBut name files ((append name part).on files) ∧
      (bytesIn ((append name part).on files) name).getD [] =
        (bytesIn files name).getD [] ++ part := by
    intro part
    constructor
    · intro k other
      rw [bytesIn_on_append, if_neg other]
    · rw [bytesIn_on_append, if_pos rfl]
      rfl
  cases crash with
  | untouched => exact ⟨.refl _ _, 0, (List.append_nil _).symm⟩
  | cut k => exact ⟨(appended _).1, k, (appended _).2⟩
  | later rest =>
    obtain rfl := rest.of_nil
    refine ⟨(appended bytes).1, bytes.length, ?_⟩
    rw [List.take_length]
    exact (appended bytes).2

end Interrupted

end SeriesCluster.FileEffect
