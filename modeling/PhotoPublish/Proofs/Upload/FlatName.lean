import PhotoPublish.Proofs.Upload.Extension

/-!
# Names of uploads in one directory

If the source folders are not copied, an upload is named by its rendered file and by the marks that are put into
that name. Each mark is put in by cutting the whole path that has been made so far, so the directories, the copy
name and the marks before it all stand in front of the cut.

* `Path.addSuffix_withMarks`: one more mark stands behind those that are there.
* `Original.path_eq`: the path of a file is a front and the name with both marks.
* `Photo.destination_flat`: where a photo goes if the source folders are not copied.
-/

set_option autoImplicit false

namespace PhotoPublish

/-! ## Marks in names -/

namespace Path

/-- The name of a file with marks behind its stem; without marks it stays as it is. -/
def withMarks (filename marks : Text) : Text :=
  if marks = [] then filename else addSuffix filename marks (extension filename)

/-- Marks stay within a name and are told from points. -/
structure AreMarks (marks : Text) : Prop where
  slash : '/' ∉ marks
  head : marks.head? ≠ some '.'

theorem AreMarks.append {marks later : Text} (h : AreMarks marks) (hlater : AreMarks later) :
    AreMarks (marks ++ later) := by
  refine ⟨?_, ?_⟩
  · rw [List.mem_append, not_or]
    exact ⟨h.slash, hlater.slash⟩
  · cases marks with
    | nil => exact hlater.head
    | cons c rest => exact h.head

theorem areMarks_nil : AreMarks [] :=
  ⟨List.not_mem_nil, nofun⟩

theorem areMarks_cons {c : Char} {text : Text} (hc : c ≠ '/') (hpoint : c ≠ '.') (htext : '/' ∉ text) :
    AreMarks (c :: text) := by
  refine ⟨?_, fun h => hpoint (Option.some.inj h)⟩
  rw [List.mem_cons, not_or]
  exact ⟨hc.symm, htext⟩

variable {filename marks front : Text}

theorem slash_notMem_withMarks (hplain : Plain filename) (hmarks : AreMarks marks) :
    '/' ∉ withMarks filename marks := by
  unfold withMarks
  split
  · exact hplain.slash_notMem
  · apply slash_notMem_append_point _ (plain_extension filename)
    rw [List.mem_append, not_or]
    exact ⟨fun hmem => hplain.slash_notMem ((stem_isPrefix hplain.slash_notMem).subset hmem), hmarks.slash⟩

/-- **One more mark stands behind those that are there**, whatever the front is. -/
theorem addSuffix_withMarks (hfront : IsFront front) (hplain : Plain filename) (hmarks : AreMarks marks)
    {mark : Text} (hne : mark ≠ []) :
    addSuffix (front ++ withMarks filename marks) mark (extension filename) =
      front ++ withMarks filename (marks ++ mark) := by
  rw [addSuffix_append hfront (slash_notMem_withMarks hplain hmarks)]
  unfold withMarks
  rw [if_neg (List.append_ne_nil_of_right_ne_nil marks hne)]
  cases marks with
  | nil => rfl
  | cons c rest =>
    -- The first mark ends the stem for good: its sign is no point, so the name does not consist of points.
    have hc : c ≠ '.' := fun h => hmarks.head (congrArg some h)
    rw [if_neg (List.cons_ne_nil c rest), addSuffix_addSuffix hplain.slash_notMem hmarks.slash hc
      (plain_extension filename) (point_notMem_extension filename)]

theorem fileName_append (hfront : IsFront front) (hname : '/' ∉ filename) :
    fileName (front ++ filename) = filename := by
  rw [fileName, cutName_append hfront hname]

theorem extension_slashed (path : Text) : extension (slashed path) = extension path := by
  apply extension_congr
  rw [lastName, slashed_slashed]
  rfl

end Path

/-! ## The marks of an original -/

namespace Original

variable (original : Original) (mode : UploadMode)

/-- The mark of a virtual copy. -/
def copyMark : Text :=
  match original.copyName? with
  | some name => '-' :: name
  | none => []

/-- The mark of a source whose extension is not that of the file. -/
def sourceMark (extension : Text) : Text :=
  if original.isMarked mode extension then '_' :: Path.extension original.source else []

variable {original mode} {filename : Text}

theorem areMarks_copyMark (hcopy : ∀ name, original.copyName? = some name → '/' ∉ name) :
    Path.AreMarks original.copyMark := by
  unfold copyMark
  cases hname : original.copyName? with
  | none => exact Path.areMarks_nil
  | some name => exact Path.areMarks_cons (by decide) (by decide) (hcopy name hname)

theorem areMarks_sourceMark (extension : Text) : Path.AreMarks (original.sourceMark mode extension) := by
  unfold sourceMark
  split
  · exact Path.areMarks_cons (by decide) (by decide) (Path.plain_extension original.source).slash_notMem
  · exact Path.areMarks_nil

/-- The front of the files that are put next to the source. -/
def front (original : Original) : Text :=
  Path.frontOf (Path.directory original.source)

theorem isFront_front (original : Original) : Path.IsFront original.front :=
  Path.isFront_frontOf _

theorem inside_eq (hplain : Plain filename) :
    Path.inside (Path.directory original.source) filename = original.front ++ filename :=
  Path.inside_eq _ hplain.slash_notMem

/-- **The path of a file is a front and the name with both marks.** -/
theorem path_eq (hplain : Plain filename) (hcopy : ∀ name, original.copyName? = some name → '/' ∉ name) :
    original.path mode filename = original.front ++ Path.withMarks filename
      (original.copyMark ++ original.sourceMark mode (Path.extension filename)) := by
  have hfront := original.isFront_front
  have hnamed : original.namedPath filename =
      original.front ++ Path.withMarks filename original.copyMark := by
    unfold namedPath copyMark
    rw [inside_eq hplain]
    cases original.copyName? with
    | none => rfl
    | some name =>
      exact Path.addSuffix_withMarks hfront hplain Path.areMarks_nil (List.cons_ne_nil _ _)
  unfold path sourceMark
  rw [hnamed]
  split
  · exact Path.addSuffix_withMarks hfront hplain (areMarks_copyMark hcopy) (List.cons_ne_nil _ _)
  · rw [List.append_nil]

/-- Without directories the name with both marks is left. -/
theorem localPath_path (hflat : mode.copiesTree = false) (hplain : Plain filename)
    (hcopy : ∀ name, original.copyName? = some name → '/' ∉ name) :
    mode.localPath (original.path mode filename) = .ok (Path.withMarks filename
        (original.copyMark ++ original.sourceMark mode (Path.extension filename))) ∧
      '/' ∉ Path.withMarks filename
        (original.copyMark ++ original.sourceMark mode (Path.extension filename)) := by
  have hmarks : Path.AreMarks (original.copyMark ++ original.sourceMark mode (Path.extension filename)) :=
    (areMarks_copyMark hcopy).append (areMarks_sourceMark (Path.extension filename))
  have hslash := Path.slash_notMem_withMarks hplain hmarks
  refine ⟨?_, hslash⟩
  unfold UploadMode.localPath
  rw [hflat, if_neg nofun, path_eq hplain hcopy, Path.fileName_append original.isFront_front hslash]

end Original

/-! ## Flat names -/

namespace Destination

/-- The path of a file in an album; an album that is missing or empty is the root. -/
def below (album? : Option Text) (name : Text) : Text :=
  match album? with
  | none | some [] => name
  | some album => album ++ '/' :: name

theorem inAlbum_getD (album? : Option Text) (name : Text) :
    inAlbum (album?.getD []) name = below album? name := by
  cases album? with
  | none => rfl
  | some album => cases album <;> rfl

end Destination

namespace Photo

variable (photo : Photo) (mode : UploadMode) (path copyName rendered : Text)

/-- Whether the extension of the photo goes into the name of its rendered file. -/
def IsMarked : Prop :=
  mode.keepsExtension = true ∧ (photo.raw.get videoKey).isSet = false ∧
    (Path.extension path).lower ≠ (Path.extension rendered).lower

instance : Decidable (photo.IsMarked mode path rendered) :=
  inferInstanceAs (Decidable (_ ∧ _ ∧ _))

/-- The name of a rendered file in its album: the copy name and the extension of the photo stand in front of its own
extension. A file that needs neither keeps its name. -/
def flatName : Text :=
  let ofCopy := if (photo.raw.get virtualCopyKey).isSet then '-' :: copyName else []
  let ofSource := if photo.IsMarked mode path rendered then '_' :: Path.extension path else []
  if (photo.raw.get virtualCopyKey).isSet = false ∧ ofSource = [] then rendered
  else Path.stem rendered ++ ofCopy ++ ofSource ++ '.' :: Path.extension rendered

variable {photo mode path copyName rendered}

/-- What an original is that is at a path, the copy name being that of a virtual copy. -/
structure Describes (photo : Photo) (path copyName : Text) (original : Original) : Prop where
  source : original.source = Path.slashed path
  copy : original.copyName? = if (photo.raw.get virtualCopyKey).isSet then some copyName else none
  video : original.isVideo = (photo.raw.get videoKey).isSet

theorem exists_original (hpath : photo.raw.get pathKey = .text path)
    (hcopy : (photo.raw.get virtualCopyKey).isSet = true →
      Destination.copyName (photo.formattedFields.get copyNameKey) = .ok copyName) :
    ∃ original, photo.original = .ok original ∧ Describes photo path copyName original := by
  unfold original copyName?
  rw [hpath]
  by_cases hvirtual : (photo.raw.get virtualCopyKey).isSet = true
  · rw [if_pos hvirtual, hcopy hvirtual]
    exact ⟨_, rfl, rfl, (if_pos hvirtual).symm, rfl⟩
  · rw [if_neg hvirtual]
    exact ⟨_, rfl, rfl, (if_neg hvirtual).symm, rfl⟩

theorem Describes.slash_notMem {original : Original} (h : Describes photo path copyName original)
    (hcopy : (photo.raw.get virtualCopyKey).isSet = true → '/' ∉ copyName) :
    ∀ name, original.copyName? = some name → '/' ∉ name := by
  intro name hname
  rw [h.copy] at hname
  split at hname
  · rename_i hvirtual
    obtain rfl := Option.some.inj hname
    exact hcopy hvirtual
  · cases hname

theorem Describes.isMarked_iff {original : Original} (h : Describes photo path copyName original) :
    original.isMarked mode (Path.extension rendered) = true ↔ photo.IsMarked mode path rendered := by
  unfold Original.isMarked IsMarked
  rw [h.source, h.video, Path.extension_slashed]
  simp only [Bool.and_eq_true, Bool.not_eq_true', bne_iff_ne]
  exact ⟨fun hall => ⟨hall.1.2, hall.1.1, hall.2⟩, fun hall => ⟨⟨hall.2.1, hall.1⟩, hall.2.2⟩⟩

theorem flatName_eq {original : Original} (h : Describes photo path copyName original) :
    photo.flatName mode path copyName rendered = Path.withMarks rendered
      (original.copyMark ++ original.sourceMark mode (Path.extension rendered)) := by
  have hmark : original.sourceMark mode (Path.extension rendered) =
      if photo.IsMarked mode path rendered then '_' :: Path.extension path else [] := by
    unfold Original.sourceMark
    rw [h.source, Path.extension_slashed]
    exact if_congr h.isMarked_iff rfl rfl
  unfold flatName Original.copyMark Path.withMarks Path.addSuffix
  rw [hmark, h.copy]
  cases (photo.raw.get virtualCopyKey).isSet with
  | true =>
    rw [if_neg (fun hplain => nomatch hplain.1), if_pos rfl, if_pos rfl]
    dsimp only
    rw [List.cons_append, if_neg (List.cons_ne_nil _ _), List.append_assoc (Path.stem rendered)]
    rfl
  | false => simp

/-- **Where a photo goes if the source folders are not copied.** -/
theorem destination_flat (hflat : mode.copiesTree = false) (hpath : photo.raw.get pathKey = .text path)
    (hcopy : (photo.raw.get virtualCopyKey).isSet = true →
      Destination.copyName (photo.formattedFields.get copyNameKey) = .ok copyName ∧ '/' ∉ copyName)
    (hplain : Plain rendered) (album? : Option Text) (visit : Visit) :
    ((photo.destination mode rendered (album?.getD [])).run.run visit).1 =
        .ok { localPath := photo.flatName mode path copyName rendered
              remotePath := Destination.below album? (photo.flatName mode path copyName rendered) } ∧
      '/' ∉ photo.flatName mode path copyName rendered := by
  obtain ⟨original, horiginal, hdescribes⟩ := exists_original hpath fun hvirtual => (hcopy hvirtual).1
  obtain ⟨hlocal, hname⟩ := Original.localPath_path hflat hplain
    (hdescribes.slash_notMem fun hvirtual => (hcopy hvirtual).2)
  rw [← flatName_eq hdescribes] at hlocal hname
  refine ⟨?_, hname⟩
  rw [destination_result, horiginal]
  show Except.map _ (mode.localPath _) = _
  rw [hlocal, ← Destination.inAlbum_getD]
  rfl

/-- A virtual copy in a directory with a point, whose own name has points at its start and its copy name one at its
end. -/
def pointedCopy : Photo :=
  { raw := [(pathKey, .text "C:\\trips.2020\\..a.b.CR2".toList), (virtualCopyKey, .bool true)]
    formatted := some [(copyNameKey, .text "v1.2.".toList)] }

/-- Both marks stand in front of the last point. -/
theorem destination_flat_pointed :
    ((pointedCopy.destination UploadBatch.markingBatch.mode "..a.b.jpg".toList "best".toList).run.run
        { clock := default }).1 =
      .ok ⟨"..a.b-v1.2._CR2.jpg".toList, "best/..a.b-v1.2._CR2.jpg".toList⟩ := by
  have hresult := @destination_flat pointedCopy UploadBatch.markingBatch.mode
    "C:\\trips.2020\\..a.b.CR2".toList "v1.2.".toList "..a.b.jpg".toList rfl rfl
    (fun _ => ⟨rfl, by decide⟩) (by decide) (some "best".toList) { clock := default }
  rw [show flatName _ _ _ _ _ = "..a.b-v1.2._CR2.jpg".toList by decide +kernel] at hresult
  exact hresult.1

end Photo

end PhotoPublish
