import PhotoPublish.Pattern.CharacterName
import PhotoPublish.Proofs.Path.Extension
import PhotoPublish.Proofs.Photo.CaptureDate
import PhotoPublish.Upload.Batch

/-!
# Extensions of uploads

A destination is a function of what the photo says of its original and of the file name
(`Photo.destination_result`). Its path is put together by cutting extensions off and putting them on again, so
that names that end in points, or in a separator, can lose the extension on the way.

* `Original.extension_path`: the extension before the way from the root is taken.
* `Original.extension_local_iff`: the extension of the path below the source folders.
* `UploadBatch.resolve_extension_iff`: when an upload has the extension of the rendered file.
-/

set_option autoImplicit false

namespace PhotoPublish

/-! ## Destinations as functions of the photo -/

theorem Fetch.run_ofExcept {α : Type} (result : Except Failure α) (visit : Visit) :
    (Fetch.ofExcept result).run.run visit = (result, visit) := rfl

theorem Fetch.run_ofExcept_map {α β : Type} (result : Except Failure α) (pack : α → β) (visit : Visit) :
    ((Fetch.ofExcept result >>= fun a => pure (pack a)).run.run visit).1 = result.map pack := by
  cases result <;> rfl

theorem Photo.fetchFormatted_run (photo : Photo) (key : Text) (visit : Visit) :
    (photo.fetchFormatted key).run.run visit =
      (.ok (photo.formattedFields.get key), { visit with calls := visit.calls ++ [.formatted key] }) := rfl

/-- What the destination of a photo depends on: the path of its file, the copy name if it is a virtual copy,
and whether it is a video. -/
structure Original where
  source : Text
  copyName? : Option Text
  isVideo : Bool

namespace Original

variable (original : Original) (mode : UploadMode)

/-- The path of a file next to the source, with the copy name in it. -/
def namedPath (filename : Text) : Text :=
  let plain := Path.inside (Path.directory original.source) filename
  match original.copyName? with
  | some name => Destination.withCopyName plain name (Path.extension filename)
  | none => plain

/-- Whether the source's extension goes into the name of a file with an extension. -/
def isMarked (extension : Text) : Bool :=
  !original.isVideo && mode.keepsExtension &&
    (Path.extension original.source).lower != extension.lower

/-- The path of a file next to the source, named for its upload. -/
def path (filename : Text) : Text :=
  if original.isMarked mode (Path.extension filename) then
    Destination.withSourceExtension (original.namedPath filename) (Path.extension original.source)
      (Path.extension filename)
  else original.namedPath filename

end Original

namespace Photo

/-- The copy name, if the photo is a virtual copy. -/
def copyName? (photo : Photo) : Except Failure (Option Text) :=
  if (photo.raw.get virtualCopyKey).isSet then
    some <$> Destination.copyName (photo.formattedFields.get copyNameKey)
  else .ok none

/-- What a photo says of its original. -/
def original (photo : Photo) : Except Failure Original := do
  let source ← Destination.slashedPath (photo.raw.get pathKey)
  let copyName? ← photo.copyName?
  return { source, copyName?, isVideo := (photo.raw.get videoKey).isSet }

/-- **A destination depends on the original and the file name.** -/
theorem destination_result (photo : Photo) (mode : UploadMode) (filename album : Text) (visit : Visit) :
    ((photo.destination mode filename album).run.run visit).1 = photo.original >>= fun original =>
      (mode.localPath (original.path mode filename)).map fun path =>
        { localPath := path, remotePath := Destination.inAlbum album path } := by
  unfold destination original copyName?
  rw [run_bind_ok (photo.fetchRaw_run pathKey visit)]
  cases hsource : Destination.slashedPath (photo.raw.get pathKey) with
  | error failure => rfl
  | ok source =>
    rw [run_bind_ok (Fetch.run_ofExcept _ _), run_bind_ok (photo.fetchRaw_run virtualCopyKey _)]
    by_cases hcopy : (photo.raw.get virtualCopyKey).isSet = true
    · rw [if_pos hcopy, if_pos hcopy, run_bind_ok (photo.fetchFormatted_run copyNameKey _)]
      cases hname : Destination.copyName (photo.formattedFields.get copyNameKey) with
      | error failure => rfl
      | ok name =>
        exact Fetch.run_ofExcept_map (mode.localPath (Original.path ⟨source, some name, _⟩ mode filename))
          _ _
    · rw [if_neg hcopy, if_neg hcopy]
      exact Fetch.run_ofExcept_map (mode.localPath (Original.path ⟨source, none, _⟩ mode filename)) _ _

theorem destination_of_original {photo : Photo} {original : Original} (h : photo.original = .ok original)
    (mode : UploadMode) (filename album : Text) (visit : Visit) :
    ((photo.destination mode filename album).run.run visit).1 =
      (mode.localPath (original.path mode filename)).map fun path =>
        { localPath := path, remotePath := Destination.inAlbum album path } := by
  rw [destination_result, h]
  rfl

end Photo

/-! ## Extensions of paths that are put together -/

namespace Original

variable {original : Original} {mode : UploadMode} {filename name extension : Text}

/-- The copy name ends in a separator, but for points behind it. -/
def breaksName (original : Original) : Bool :=
  original.copyName?.any fun name => name.any isSeparator && Path.endsInPoints name

theorem endsInPoints_copyName (path name : Text) :
    Path.endsInPoints (path ++ '-' :: name) = (name.any isSeparator && Path.endsInPoints name) :=
  Path.endsInPoints_append_cons rfl (by decide) path name

theorem extension_namedPath (original : Original) (filename : Text) :
    Path.extension (original.namedPath filename) =
      if original.breaksName then [] else Path.extension filename := by
  unfold namedPath breaksName
  cases original.copyName? with
  | none => exact Path.extension_inside _ filename
  | some name =>
    dsimp only
    rw [Destination.withCopyName, Path.addSuffix,
      Path.extension_append_point _ (Path.plain_extension filename) (Path.point_notMem_extension filename),
      endsInPoints_copyName]
    rfl

/-- **The extension of a path that is put together** is that of the file name, unless the copy name breaks it
and no source's extension mends it. -/
theorem extension_path (original : Original) (mode : UploadMode) (filename : Text) :
    Path.extension (original.path mode filename) =
      if original.breaksName && !original.isMarked mode (Path.extension filename) then []
      else Path.extension filename := by
  unfold path
  cases hmarked : original.isMarked mode (Path.extension filename) with
  | true =>
    -- The source's extension stands behind an underscore, and neither has separators.
    have hsource : (Path.extension original.source).any isSeparator = false := by
      rw [List.any_eq_false]
      exact fun c hmem => Bool.eq_false_iff.1 (Path.plain_extension original.source c hmem)
    rw [if_pos rfl, Bool.not_true, Bool.and_false, if_neg nofun, Destination.withSourceExtension,
      Path.addSuffix, Path.extension_append_point _ (Path.plain_extension filename)
        (Path.point_notMem_extension filename),
      Path.endsInPoints_append_cons rfl (by decide), hsource, Bool.false_and]
    exact if_neg nofun
  | false =>
    rw [if_neg nofun, Bool.not_false, Bool.and_true]
    exact extension_namedPath original filename

/-- A path whose extension is broken by the copy name has its last name from the file name. -/
theorem extension_lastStep_path (hne : Path.extension filename ≠ []) :
    Path.extension (Path.lastStep (original.path mode filename)) =
      Path.extension (original.path mode filename) := by
  by_cases hpath : Path.extension (original.path mode filename) = []
  · have hbroken : original.breaksName = true ∧
        original.isMarked mode (Path.extension filename) = false := by
      rw [extension_path] at hpath
      split at hpath
      · rename_i h
        simpa using h
      · exact absurd hpath hne
    obtain ⟨hbreaks, hmarked⟩ := hbroken
    unfold path
    rw [hmarked, if_neg nofun]
    unfold namedPath
    unfold breaksName at hbreaks
    cases hcopy : original.copyName? with
    | none =>
      rw [hcopy] at hbreaks
      cases hbreaks
    | some name =>
      exact Path.extension_lastStep_append_point _ (Path.plain_extension filename)
        (Path.point_notMem_extension filename) hne
  · exact Path.extension_lastStep_of_ne_nil hpath

end Original

/-! ## Extensions of uploads -/

namespace UploadMode

/-- The root of the source folders. -/
def root (mode : UploadMode) : Except Failure Text :=
  if mode.sourceRoot.isSet then Destination.slashedPath mode.sourceRoot else .ok []

/-- The path lies on the way to the root of the source folders, so that the way back to it only goes up. -/
def Climbs (mode : UploadMode) (path : Text) : Prop :=
  mode.copiesTree = true ∧ ∃ root, mode.root = .ok root ∧ Path.absolute path <+: Path.absolute root

/-- The part of a path that its extension is read off below the source folders. -/
def kept (mode : UploadMode) (path : Text) : Text :=
  if mode.copiesTree then Path.lastStep path else path

theorem extension_of_localPath {mode : UploadMode} {path way : Text}
    (h : mode.localPath path = .ok way) :
    (mode.Climbs path → Path.extension way = []) ∧
      (¬ mode.Climbs path → Path.extension way = Path.extension (mode.kept path)) := by
  unfold Climbs kept
  unfold localPath at h
  cases hcopies : mode.copiesTree with
  | false =>
    rw [hcopies, if_neg nofun] at h
    obtain rfl := Except.ok.inj h
    refine ⟨fun ⟨htree, _⟩ => absurd htree nofun, fun _ => ?_⟩
    rw [Path.fileName, Path.cutName_snd, Path.extension_afterLast]
    rfl
  | true =>
    have hway : ∃ root, mode.root = .ok root ∧ Path.relative path root = .ok way := by
      rw [hcopies, if_pos rfl] at h
      unfold root
      by_cases hset : mode.sourceRoot.isSet = true
      · rw [if_pos hset] at h ⊢
        exact exists_of_bind_ok h
      · rw [if_neg hset] at h ⊢
        exact ⟨[], rfl, h⟩
    obtain ⟨root, hroot, hrelative⟩ := hway
    rw [Path.extension_relative hrelative]
    refine ⟨fun ⟨_, root', hroot', hclimbs⟩ => ?_, fun hstays => ?_⟩
    · obtain rfl := Except.ok.inj (hroot.symm.trans hroot')
      exact if_pos hclimbs
    · exact if_neg fun hclimbs => hstays ⟨rfl, root, hroot, hclimbs⟩

end UploadMode

namespace Original

variable {original : Original} {mode : UploadMode} {name extension way : Text}

/-- What takes its extension from an upload that is named by a name and an extension. -/
inductive Loses (original : Original) (mode : UploadMode) (name extension : Text) : Prop
  /-- The file is put at a place on the way to the root of the source folders. -/
  | root : mode.Climbs (original.path mode (name ++ '.' :: extension)) →
      Loses original mode name extension
  /-- The name ends in points, and no other step of the way happens to have the extension. -/
  | name : Path.endsInPoints name = true →
      Path.extension (mode.kept (original.path mode (name ++ '.' :: extension))) ≠ extension →
      Loses original mode name extension
  /-- The copy name ends in a separator, or in points behind one, and nothing is put behind it. -/
  | copy : Path.endsInPoints name = false → original.breaksName = true →
      original.isMarked mode extension = false → Loses original mode name extension

/-- Names that do not end in points lose the extension to the copy name only. -/
theorem extension_path_iff (hplain : Plain extension) (hpoint : '.' ∉ extension) (hne : extension ≠ [])
    (hname : Path.endsInPoints name = false) :
    Path.extension (mode.kept (original.path mode (name ++ '.' :: extension))) = extension ↔
      ¬ (original.breaksName = true ∧ original.isMarked mode extension = false) := by
  have hfilename := Path.extension_append_point name hplain hpoint
  rw [hname, if_neg nofun] at hfilename
  have hkept : Path.extension (mode.kept (original.path mode (name ++ '.' :: extension))) =
      Path.extension (original.path mode (name ++ '.' :: extension)) := by
    unfold UploadMode.kept
    split
    · exact extension_lastStep_path (hfilename.symm ▸ hne)
    · rfl
  rw [hkept, extension_path, hfilename]
  cases original.breaksName <;> cases original.isMarked mode extension <;> simp [Ne.symm hne]

/-- **The path below the source folders has the extension, unless something takes it away.** -/
theorem extension_local_iff (hplain : Plain extension) (hpoint : '.' ∉ extension) (hne : extension ≠ [])
    (h : mode.localPath (original.path mode (name ++ '.' :: extension)) = .ok way) :
    Path.extension way = extension ↔ ¬ original.Loses mode name extension := by
  obtain ⟨hclimb, hstay⟩ := UploadMode.extension_of_localPath h
  by_cases hup : mode.Climbs (original.path mode (name ++ '.' :: extension))
  · rw [hclimb hup]
    exact iff_of_false (Ne.symm hne) (not_not_intro (.root hup))
  · rw [hstay hup]
    cases hname : Path.endsInPoints name with
    | true =>
      refine ⟨fun hsame hloses => ?_, fun hkeeps => ?_⟩
      · cases hloses with
        | root hup' => exact hup hup'
        | name _ hother => exact hother hsame
        | copy hname' => rw [hname] at hname'; cases hname'
      · exact Decidable.byContradiction fun hother => hkeeps (.name hname hother)
    | false =>
      rw [extension_path_iff hplain hpoint hne hname]
      refine not_congr ⟨fun hcopy => .copy hname hcopy.1 hcopy.2, fun hloses => ?_⟩
      cases hloses with
      | root hup' => exact absurd hup' hup
      | name hname' => rw [hname] at hname'; cases hname'
      | copy _ hbreaks hmarked => exact ⟨hbreaks, hmarked⟩

end Original

namespace UploadBatch

section Resolution

variable [Pattern.CharacterNames] {batch : UploadBatch} {surroundings : Surroundings} {photo : Photo}
  {rendered : Text} {visit : Visit} {dest : Destination}

/-- The name that an upload gets in front of its extension: that of the rendered file or, if files are renamed,
the value of the file name template, which is evaluated after the album. -/
def nameAt (batch : UploadBatch) (surroundings : Surroundings) (photo : Photo) (rendered : Text)
    (visit : Visit) : Text :=
  match batch.filenamePattern with
  | none => Path.stem rendered
  | some source =>
    let afterAlbum := ((batch.album surroundings photo).run.run visit).2
    ((valueOf source surroundings photo).run.run afterAlbum).1.toOption.join.getD []

theorem filename_result {after : Visit} {filename : Text} (hplain : Plain rendered)
    (hne : Path.extension rendered ≠ [])
    (h : (batch.filename surroundings photo rendered).run.run
      ((batch.album surroundings photo).run.run visit).2 = (.ok filename, after)) :
    filename = batch.nameAt surroundings photo rendered visit ++ '.' :: Path.extension rendered := by
  unfold UploadBatch.filename at h
  unfold nameAt
  cases hsource : batch.filenamePattern with
  | none =>
    rw [hsource] at h
    obtain ⟨hfilename, -⟩ := Prod.mk.inj h
    rw [← Except.ok.inj hfilename]
    exact (Path.stem_append_extension hplain hne).1.symm
  | some source =>
    rw [hsource] at h
    obtain ⟨value, mid, hvalue, h⟩ := exists_of_run_bind_ok h
    dsimp only at h ⊢
    rw [hvalue]
    split at h
    · obtain ⟨hfilename, -⟩ := Prod.mk.inj h
      rw [← Except.ok.inj hfilename, withExtension, if_neg (mt List.isEmpty_iff.1 hne)]
      rfl
    · obtain ⟨path, mid', -, h⟩ := exists_of_run_bind_ok h
      cases h

/-- **An upload has the extension of the rendered file, unless something takes it away.** The paths below the
source folders and in the album have the same one. A file that is not renamed does not end in points. -/
theorem resolve_extension_iff (hplain : Plain rendered) (hne : Path.extension rendered ≠ [])
    (h : ((batch.resolve surroundings photo rendered).run.run visit).1 = .ok dest) :
    Path.extension dest.remotePath = Path.extension dest.localPath ∧
      (batch.filenamePattern = none →
        Path.endsInPoints (batch.nameAt surroundings photo rendered visit) = false) ∧
      ∃ original, photo.original = .ok original ∧
        (Path.extension dest.localPath = Path.extension rendered ↔
          ¬ original.Loses batch.mode (batch.nameAt surroundings photo rendered visit)
            (Path.extension rendered)) := by
  rcases hrun : (batch.resolve surroundings photo rendered).run.run visit with ⟨result, after⟩
  rw [hrun] at h
  obtain rfl : result = .ok dest := h
  obtain ⟨album, mid, halbum, hrest⟩ := exists_of_run_bind_ok hrun
  obtain ⟨filename, mid', hfilename, hdest⟩ := exists_of_run_bind_ok hrest
  rw [show mid = ((batch.album surroundings photo).run.run visit).2 by rw [halbum]] at hfilename
  obtain rfl := filename_result hplain hne hfilename
  have hresult := photo.destination_result batch.mode
    (batch.nameAt surroundings photo rendered visit ++ '.' :: Path.extension rendered) album mid'
  rw [hdest] at hresult
  obtain ⟨original, horiginal, hpath⟩ := exists_of_bind_ok hresult.symm
  cases hway : batch.mode.localPath (original.path batch.mode
      (batch.nameAt surroundings photo rendered visit ++ '.' :: Path.extension rendered)) with
  | error failure =>
    rw [hway] at hpath
    cases hpath
  | ok way =>
    rw [hway] at hpath
    obtain rfl := Except.ok.inj hpath
    refine ⟨?_, fun hsource => ?_, original, horiginal, ?_⟩
    · unfold Destination.inAlbum
      split
      · rfl
      · exact Path.extension_append_slash album way
    · unfold nameAt
      rw [hsource]
      exact (Path.stem_append_extension hplain hne).2
    · exact Original.extension_local_iff (Path.plain_extension rendered)
        (Path.point_notMem_extension rendered) hne hway

end Resolution

/-- A batch in which raw images and others go to the same album. -/
def markingBatch : UploadBatch :=
  { config := Config.complete [(.text "RAWandJPG".toList, .bool true)] }

/-- A virtual copy of a raw image. -/
def virtualCopy (name : Text) : Photo :=
  { raw := [(Photo.pathKey, .text "/trips/a.cr2".toList), (Photo.virtualCopyKey, .bool true)]
    formatted := some [(Photo.copyNameKey, .text name)] }

attribute [local instance] Pattern.CharacterNames.common

/-- A copy name with a slash inside it keeps the extension. -/
theorem resolve_extension_kept :
    ((markingBatch.resolve {} (virtualCopy "1/2".toList) "a.jpg".toList).run.run
        { clock := default }).1 = .ok ⟨"2_cr2.jpg".toList, "2_cr2.jpg".toList⟩ ∧
      Path.extension "2_cr2.jpg".toList = Path.extension "a.jpg".toList := by
  have hresolve : ((markingBatch.resolve {} (virtualCopy "1/2".toList) "a.jpg".toList).run.run
      { clock := default }).1 = .ok ⟨"2_cr2.jpg".toList, "2_cr2.jpg".toList⟩ :=
    ok_of_toOption (by decide +kernel)
  obtain ⟨-, -, original, horiginal, hkeeps⟩ := resolve_extension_iff (by decide) (by decide) hresolve
  obtain rfl : ⟨"/trips/a.cr2".toList, some "1/2".toList, false⟩ = original := Except.ok.inj horiginal
  refine ⟨hresolve, hkeeps.2 fun hloses => ?_⟩
  cases hloses with
  | root hclimbs => exact absurd hclimbs.1 (by decide)
  | name hpoints => exact absurd hpoints (by decide)
  | copy _ hbreaks => exact absurd hbreaks (by decide)

/-- A copy name with a slash at its end takes the whole name away. -/
theorem resolve_extension_lost : ∃ batch, ofEntries [] = .ok batch ∧
    ((batch.resolve {} (virtualCopy "1/".toList) "a.jpg".toList).run.run { clock := default }).1 =
      .ok ⟨".jpg".toList, ".jpg".toList⟩ ∧
    Path.extension ".jpg".toList ≠ Path.extension "a.jpg".toList :=
  ⟨{ config := (Config.complete []).withAddress }, rfl, ok_of_toOption (by decide +kernel), by decide⟩

end UploadBatch

end PhotoPublish
