import PhotoPublish.Proofs.Upload.SourceTree

/-!
# Names of virtual copies

The virtual copies of a photo are told apart by their copy names, which stand in the names of their files as they
are. A copy name without slashes stays in the last name of the path, so that copies are told apart by it. Of a copy
name with slashes only a part may be left: what stands behind the last one if the source folders are not copied, and
otherwise the place that it leads to.

* `Original.path_copy`: the path of a virtual copy, spelled out.
* `Photo.endings_eq_iff`: when two copy names end in the same file name.
* `Photo.destination_copies_iff`: when two virtual copies of a photo go to one place.
-/

set_option autoImplicit false

namespace PhotoPublish

/-! ## Suffixes behind any path -/

namespace Path

variable {front extension : Text}

theorem afterLast_append (hfront : IsFront front) (x : Text) :
    Text.afterLast '/' (front ++ x) = Text.afterLast '/' x := by
  rcases hfront with rfl | ⟨directory, rfl⟩
  · rfl
  · rw [List.append_assoc, List.singleton_append, Text.afterLast_append_cons]

/-- A path is a front and its last name. -/
theorem exists_front (x : Text) : ∃ front last, IsFront front ∧ '/' ∉ last ∧ x = front ++ last := by
  rcases Text.notMem_or_cut '/' x with h | ⟨before, after, rfl, h⟩
  · exact ⟨[], x, .inl rfl, h, rfl⟩
  · exact ⟨before ++ ['/'], after, .inr ⟨before, rfl⟩, h, by rw [List.append_assoc, List.singleton_append]⟩

/-- **A suffix is put in front of the last point**, unless its last name has nothing but points in front of that. -/
theorem addSuffix_point (x suffix : Text) (hplain : Plain extension) (hpoint : '.' ∉ extension) :
    addSuffix (x ++ '.' :: extension) suffix extension =
      x ++ ((if (Text.afterLast '/' x).all (· = '.') then '.' :: extension else []) ++ suffix ++
        '.' :: extension) := by
  obtain ⟨front, last, hfront, hlast, rfl⟩ := exists_front x
  rw [afterLast_append hfront, Text.afterLast_of_notMem hlast, List.append_assoc,
    addSuffix_append hfront (slash_notMem_append_point hlast hplain), addSuffix,
    stem_append_point hlast hplain hpoint]
  split <;> simp

end Path

/-! ## Local paths of two files -/

namespace UploadMode

variable {mode : UploadMode} {file other : Text}

theorem localPath_of_flat (hflat : mode.copiesTree = false) (file : Text) :
    mode.localPath file = .ok (Path.fileName file) := by
  unfold localPath
  rw [hflat, if_neg nofun]

section Rooted

variable (hroot : mode.copiesTree = true → ∃ root, mode.root = .ok root) (hfile : file ≠ [])
include hroot hfile

theorem exists_localPath : ∃ way, mode.localPath file = .ok way := by
  cases htree : mode.copiesTree with
  | true =>
    obtain ⟨root, hroot⟩ := hroot htree
    exact ⟨_, (localPath_of_root htree hroot file).trans (Path.relative_eq hfile root)⟩
  | false => exact ⟨_, localPath_of_flat htree file⟩

/-- **Two files have one local path** if they are at one place or, if the source folders are not copied, have one
name. -/
theorem localPath_eq_iff (hother : other ≠ []) :
    mode.localPath file = mode.localPath other ↔
      if mode.copiesTree then Path.absolute file = Path.absolute other
      else Path.fileName file = Path.fileName other := by
  cases htree : mode.copiesTree with
  | true =>
    obtain ⟨root, hroot⟩ := hroot htree
    rw [localPath_of_root htree hroot, localPath_of_root htree hroot, if_pos rfl]
    exact Path.relative_eq_iff hfile hother root
  | false =>
    rw [localPath_of_flat htree, localPath_of_flat htree, if_neg nofun]
    exact ⟨Except.ok.inj, congrArg _⟩

end Rooted

end UploadMode

theorem Destination.inAlbum_inj {album way other : Text} :
    inAlbum album way = inAlbum album other ↔ way = other := by
  unfold inAlbum
  split
  · rfl
  · rw [List.append_cancel_left_eq, List.cons.injEq, and_iff_right rfl]

/-! ## Paths of virtual copies -/

namespace Photo

variable (photo : Photo) (mode : UploadMode) (path rendered : Text)

/-- The name of a rendered file with a copy name in it, without its extension. -/
def copyStem (name : Text) : Text :=
  Path.stem rendered ++ '-' :: name

/-- What follows a copy name in the path of its virtual copy, by what the path has behind its last slash so far: the
mark of the photo's extension, if there is one, and the extension of the rendered file. Behind points that
extension is taken for a part of the name, and comes once more. -/
def copyEnding (last : Text) : Text :=
  if photo.IsMarked mode path rendered then
    (if last.all (· = '.') then '.' :: Path.extension rendered else []) ++ '_' :: Path.extension path ++
      '.' :: Path.extension rendered
  else '.' :: Path.extension rendered

/-- The path of the virtual copy with a name, from the directory of its photo on. -/
def copyPath (name : Text) : Text :=
  copyStem rendered name ++ photo.copyEnding mode path rendered (Text.afterLast '/' (copyStem rendered name))

end Photo

namespace Original

variable {photo : Photo} {original : Original} {mode : UploadMode} {path name rendered : Text}

/-- **The path of a virtual copy** from the directory of its photo on. -/
theorem path_copy (hdescribes : Photo.Describes photo path name original)
    (hcopy : original.copyName? = some name) (hplain : Plain rendered) :
    original.path mode rendered = original.front ++ photo.copyPath mode path rendered name := by
  have hnamed : original.namedPath rendered =
      original.front ++ Photo.copyStem rendered name ++ '.' :: Path.extension rendered := by
    unfold namedPath
    rw [hcopy, inside_eq hplain]
    dsimp only
    rw [Destination.withCopyName, Path.addSuffix_append original.isFront_front hplain.slash_notMem, Path.addSuffix,
      Photo.copyStem, List.append_assoc, List.append_assoc, List.append_assoc]
  have hsource : Path.extension original.source = Path.extension path := by
    rw [hdescribes.source, Path.extension_slashed]
  unfold Original.path Photo.copyPath Photo.copyEnding
  rw [hnamed, hsource]
  by_cases hmarked : photo.IsMarked mode path rendered
  · rw [if_pos (hdescribes.isMarked_iff.2 hmarked), if_pos hmarked, Destination.withSourceExtension,
      Path.addSuffix_point _ _ (Path.plain_extension rendered) (Path.point_notMem_extension rendered),
      Path.afterLast_append original.isFront_front, List.append_assoc]
  · rw [if_neg (mt hdescribes.isMarked_iff.1 hmarked), if_neg hmarked, List.append_assoc]

end Original

/-! ## Copies that meet -/

namespace Photo

section Meeting

variable (photo : Photo) (mode : UploadMode) (path rendered : Text)

/-- An end that has nothing but points, and one in which the extension follows these. -/
def Absorbs (points last : Text) : Prop :=
  points.all (· = '.') = true ∧ last = points ++ '.' :: Path.extension rendered

/-- Two ends of copy names that make one file name. Different ones do if the extension is taken for a part of the
name behind the one and belongs to the other. -/
def EndsMeet (last other : Text) : Prop :=
  last = other ∨ photo.IsMarked mode path rendered ∧ Path.extension rendered ≠ [] ∧
    (Absorbs rendered last other ∨ Absorbs rendered other last)

/-- The virtual copies with two names meet: their files are at one place or, if the source folders are not copied,
what the copy names leave behind the last slash makes one file name. -/
def CopiesMeet (name other : Text) : Prop :=
  if mode.copiesTree then
    Path.follow (Path.absolute (Path.directory (Path.slashed path)))
        (Text.splitOn '/' (photo.copyPath mode path rendered name)) =
      Path.follow (Path.absolute (Path.directory (Path.slashed path)))
        (Text.splitOn '/' (photo.copyPath mode path rendered other))
  else photo.EndsMeet mode path rendered (Text.afterLast '/' (copyStem rendered name))
    (Text.afterLast '/' (copyStem rendered other))

end Meeting

instance (rendered points last : Text) : Decidable (Absorbs rendered points last) :=
  inferInstanceAs (Decidable (_ ∧ _))

instance (photo : Photo) (mode : UploadMode) (path rendered last other : Text) :
    Decidable (photo.EndsMeet mode path rendered last other) :=
  inferInstanceAs (Decidable (_ ∨ _ ∧ _ ∧ (_ ∨ _)))

instance (photo : Photo) (mode : UploadMode) (path rendered name other : Text) :
    Decidable (photo.CopiesMeet mode path rendered name other) :=
  inferInstanceAs (Decidable (ite _ _ _))

variable {photo first second : Photo} {mode : UploadMode} {path rendered name other : Text}

/-! ### Ends of names -/

theorem copyEnding_of_marked (hmarked : photo.IsMarked mode path rendered) (last : Text) :
    photo.copyEnding mode path rendered last =
      (if last.all (· = '.') then '.' :: Path.extension rendered else []) ++
        ('_' :: Path.extension path ++ '.' :: Path.extension rendered) := by
  unfold copyEnding
  rw [if_pos hmarked, List.append_assoc]

/-- Behind an extension there are not only points. -/
theorem Absorbs.not_points {points last : Text} (h : Absorbs rendered points last)
    (hne : Path.extension rendered ≠ []) : last.all (· = '.') = false := by
  obtain ⟨c, hmem⟩ := List.exists_mem_of_ne_nil _ hne
  rw [h.2, Bool.eq_false_iff]
  intro hpoints
  have hc : c = '.' := of_decide_eq_true
    (List.all_eq_true.1 hpoints c (List.mem_append_right _ (List.mem_cons_of_mem _ hmem)))
  exact Path.point_notMem_extension rendered (hc ▸ hmem)

theorem Absorbs.append_ending {points last : Text} (h : Absorbs rendered points last)
    (hmarked : photo.IsMarked mode path rendered) (hne : Path.extension rendered ≠ []) :
    points ++ photo.copyEnding mode path rendered points = last ++ photo.copyEnding mode path rendered last := by
  rw [copyEnding_of_marked hmarked, copyEnding_of_marked hmarked, if_pos h.1, h.not_points hne, if_neg nofun,
    List.nil_append, h.2, List.append_assoc]

/-- Where the extension is taken for a part of one name only, that is all but for it. -/
theorem absorbs_of_append_ending {points last : Text} (hmarked : photo.IsMarked mode path rendered)
    (hpoints : points.all (· = '.') = true) (hlast : last.all (· = '.') = false)
    (h : points ++ photo.copyEnding mode path rendered points =
      last ++ photo.copyEnding mode path rendered last) :
    Path.extension rendered ≠ [] ∧ Absorbs rendered points last := by
  rw [copyEnding_of_marked hmarked, copyEnding_of_marked hmarked, if_pos hpoints, hlast, if_neg nofun,
    List.nil_append, ← List.append_assoc, List.append_cancel_right_eq] at h
  refine ⟨fun hempty => ?_, hpoints, h.symm⟩
  rw [← h, hempty, List.all_append, hpoints] at hlast
  cases hlast

/-- **When two copy names end in the same file name.** -/
theorem endings_eq_iff (last other : Text) :
    last ++ photo.copyEnding mode path rendered last = other ++ photo.copyEnding mode path rendered other ↔
      photo.EndsMeet mode path rendered last other := by
  unfold EndsMeet
  by_cases hmarked : photo.IsMarked mode path rendered
  · constructor
    · intro h
      cases hlast : last.all (· = '.') <;> cases hother : other.all (· = '.')
      case false.true =>
        obtain ⟨hne, habsorbs⟩ := absorbs_of_append_ending hmarked hother hlast h.symm
        exact .inr ⟨hmarked, hne, .inr habsorbs⟩
      case true.false =>
        obtain ⟨hne, habsorbs⟩ := absorbs_of_append_ending hmarked hlast hother h
        exact .inr ⟨hmarked, hne, .inl habsorbs⟩
      all_goals
        rw [copyEnding_of_marked hmarked, copyEnding_of_marked hmarked, hlast, hother,
          List.append_cancel_right_eq] at h
        exact .inl h
    · rintro (rfl | ⟨-, hne, habsorbs | habsorbs⟩)
      · rfl
      · exact habsorbs.append_ending hmarked hne
      · exact (habsorbs.append_ending hmarked hne).symm
  · unfold copyEnding
    rw [if_neg hmarked, if_neg hmarked, List.append_cancel_right_eq]
    exact ⟨.inl, fun h => h.resolve_right fun habsorbs => hmarked habsorbs.1⟩

/-! ### Copy names without slashes -/

theorem dash_mem_copyStem (rendered name : Text) : '-' ∈ copyStem rendered name :=
  List.mem_append_right _ List.mem_cons_self

theorem slash_notMem_copyStem (hplain : Plain rendered) (h : '/' ∉ name) : '/' ∉ copyStem rendered name := by
  unfold copyStem
  rw [List.mem_append, List.mem_cons, not_or, not_or]
  exact ⟨fun hmem => hplain.slash_notMem ((Path.stem_isPrefix hplain.slash_notMem).subset hmem), by decide, h⟩

theorem slash_notMem_copyEnding (last : Text) : '/' ∉ photo.copyEnding mode path rendered last := by
  have hextension := Path.slash_notMem_point_cons (Path.plain_extension rendered)
  have hmark : '/' ∉ '_' :: Path.extension path := by
    rw [List.mem_cons, not_or]
    exact ⟨by decide, (Path.plain_extension path).slash_notMem⟩
  unfold copyEnding
  split
  · rw [List.mem_append, List.mem_append, not_or, not_or]
    refine ⟨⟨?_, hmark⟩, hextension⟩
    split
    · exact hextension
    · exact List.not_mem_nil
  · exact hextension

theorem not_points_of_dash {last : Text} (h : '-' ∈ last) : last.all (· = '.') = false := by
  rw [Bool.eq_false_iff]
  intro hpoints
  exact absurd (of_decide_eq_true (List.all_eq_true.1 hpoints _ h)) (by decide)

/-- Ends that have the copy names whole tell them apart. -/
theorem not_endsMeet_of_ne (photo : Photo) (mode : UploadMode) (path rendered : Text) (hne : name ≠ other) :
    ¬ photo.EndsMeet mode path rendered (copyStem rendered name) (copyStem rendered other) := by
  rintro (hsame | ⟨-, -, habsorbs | habsorbs⟩)
  · exact hne (List.cons.inj (List.append_cancel_left hsame)).2
  · rw [Absorbs, not_points_of_dash (dash_mem_copyStem rendered name)] at habsorbs
    cases habsorbs.1
  · rw [Absorbs, not_points_of_dash (dash_mem_copyStem rendered other)] at habsorbs
    cases habsorbs.1

/-- A copy whose name has no slash lies in the directory of its photo. -/
theorem follow_copyPath (hplain : Plain rendered) (h : '/' ∉ name) (place : List Text) :
    Path.follow place (Text.splitOn '/' (photo.copyPath mode path rendered name)) =
      place ++ [photo.copyPath mode path rendered name] := by
  have hslash : '/' ∉ photo.copyPath mode path rendered name := by
    unfold copyPath
    rw [List.mem_append, not_or]
    exact ⟨slash_notMem_copyStem hplain h, slash_notMem_copyEnding _⟩
  have hdash : '-' ∈ photo.copyPath mode path rendered name :=
    List.mem_append_left _ (dash_mem_copyStem rendered name)
  have hsign : ∀ sign : Text, '-' ∉ sign → photo.copyPath mode path rendered name ≠ sign := by
    rintro sign hnot rfl
    exact hnot hdash
  rw [Text.splitOn_of_notMem hslash]
  exact Path.follow_name ⟨hsign [] (by decide), hsign Path.here (by decide), hsign Path.above (by decide)⟩ place

/-- **Copies whose names are different and have no slash do not meet.** -/
theorem slash_mem_of_copiesMeet (hplain : Plain rendered) (hne : name ≠ other)
    (h : photo.CopiesMeet mode path rendered name other) : '/' ∈ name ∨ '/' ∈ other := by
  by_contra hslash
  obtain ⟨hname, hother⟩ := not_or.1 hslash
  have hstem := Text.afterLast_of_notMem (slash_notMem_copyStem hplain hname)
  have hstem' := Text.afterLast_of_notMem (slash_notMem_copyStem hplain hother)
  refine not_endsMeet_of_ne photo mode path rendered hne ?_
  unfold CopiesMeet at h
  split at h
  · rw [follow_copyPath hplain hname, follow_copyPath hplain hother] at h
    have hpath := List.singleton_inj.1 (List.append_cancel_left h)
    rw [copyPath, copyPath, hstem, hstem'] at hpath
    exact (endings_eq_iff _ _).1 hpath
  · rwa [hstem, hstem'] at h

/-! ## Copies of one photo -/

/-- Two virtual copies of a photo with different names. -/
structure AreCopies (first second : Photo) (path name other : Text) : Prop where
  raw : ∀ key, first.raw.get key = second.raw.get key
  located : first.raw.get pathKey = .text path
  virtual : (first.raw.get virtualCopyKey).isSet = true
  named : Destination.copyName (first.formattedFields.get copyNameKey) = .ok name
  otherNamed : Destination.copyName (second.formattedFields.get copyNameKey) = .ok other
  ne : name ≠ other

/-- The path that a virtual copy with a name is put at. -/
def copyFile (photo : Photo) (mode : UploadMode) (path rendered name : Text) : Text :=
  Path.frontOf (Path.directory (Path.slashed path)) ++ photo.copyPath mode path rendered name

theorem copyFile_ne_nil : photo.copyFile mode path rendered name ≠ [] :=
  List.append_ne_nil_of_right_ne_nil _
    (List.append_ne_nil_of_left_ne_nil (List.ne_nil_of_mem (dash_mem_copyStem rendered name)) _)

/-- Where a virtual copy goes. -/
theorem destination_copy (hpath : photo.raw.get pathKey = .text path)
    (hvirtual : (photo.raw.get virtualCopyKey).isSet = true)
    (hname : Destination.copyName (photo.formattedFields.get copyNameKey) = .ok name) (hplain : Plain rendered)
    (mode : UploadMode) (album : Text) (visit : Visit) :
    ((photo.destination mode rendered album).run.run visit).1 =
      (mode.localPath (photo.copyFile mode path rendered name)).map fun way =>
        ⟨way, Destination.inAlbum album way⟩ := by
  obtain ⟨original, horiginal, hdescribes⟩ := exists_original hpath fun _ => hname
  have hcopy : original.copyName? = some name := by rw [hdescribes.copy, if_pos hvirtual]
  rw [destination_of_original horiginal, Original.path_copy hdescribes hcopy hplain, Original.front,
    hdescribes.source]
  rfl

/-- Copies of one photo are marked alike. -/
theorem AreCopies.copyFile_eq (h : AreCopies first second path name other) :
    second.copyFile mode path rendered other = first.copyFile mode path rendered other := by
  have hmarked : second.IsMarked mode path rendered ↔ first.IsMarked mode path rendered := by
    unfold IsMarked
    rw [h.raw]
  unfold copyFile copyPath copyEnding
  rw [if_congr hmarked rfl rfl]

/-- Copies are at one place, or have one file name, exactly if they meet. -/
theorem copiesMeet_iff :
    (if mode.copiesTree then
        Path.absolute (photo.copyFile mode path rendered name) =
          Path.absolute (photo.copyFile mode path rendered other)
      else Path.fileName (photo.copyFile mode path rendered name) =
        Path.fileName (photo.copyFile mode path rendered other)) ↔
      photo.CopiesMeet mode path rendered name other := by
  have hfront := Path.isFront_frontOf (Path.directory (Path.slashed path))
  have hname : ∀ name, Path.fileName (photo.copyFile mode path rendered name) =
      Text.afterLast '/' (copyStem rendered name) ++
        photo.copyEnding mode path rendered (Text.afterLast '/' (copyStem rendered name)) := by
    intro name
    rw [Path.fileName, Path.cutName_snd, copyFile, Path.afterLast_append hfront, copyPath,
      Text.afterLast_append _ (slash_notMem_copyEnding _)]
  have hplace : ∀ name, Path.absolute (photo.copyFile mode path rendered name) =
      Path.follow (Path.absolute (Path.directory (Path.slashed path)))
        (Text.splitOn '/' (photo.copyPath mode path rendered name)) := by
    intro name
    rw [copyFile, Path.absolute_append hfront, Path.absolute_frontOf]
  unfold CopiesMeet
  rw [hname, hname, hplace, hplace, endings_eq_iff]

/-- **When two virtual copies of a photo go to one place**, in any album: their names have to meet, which they do not
if none of them has a slash. -/
theorem destination_copies_iff (h : AreCopies first second path name other) (hplain : Plain rendered)
    (hroot : mode.copiesTree = true → ∃ root, mode.root = .ok root) (album : Text)
    (visit otherVisit : Visit) :
    ∃ dest otherDest, ((first.destination mode rendered album).run.run visit).1 = .ok dest ∧
      ((second.destination mode rendered album).run.run otherVisit).1 = .ok otherDest ∧
      (dest.localPath = otherDest.localPath ↔ first.CopiesMeet mode path rendered name other) ∧
      (dest.remotePath = otherDest.remotePath ↔ first.CopiesMeet mode path rendered name other) ∧
      (first.CopiesMeet mode path rendered name other → '/' ∈ name ∨ '/' ∈ other) := by
  have hdest := destination_copy h.located h.virtual h.named hplain mode album visit
  have hotherDest := destination_copy ((h.raw pathKey).symm.trans h.located)
    (h.raw virtualCopyKey ▸ h.virtual) h.otherNamed hplain mode album otherVisit
  rw [h.copyFile_eq] at hotherDest
  have hfile : ∀ name, first.copyFile mode path rendered name ≠ [] := fun _ => copyFile_ne_nil
  obtain ⟨way, hway⟩ := UploadMode.exists_localPath hroot (hfile name)
  obtain ⟨otherWay, hotherWay⟩ := UploadMode.exists_localPath hroot (hfile other)
  rw [hway] at hdest
  rw [hotherWay] at hotherDest
  have hlocal : way = otherWay ↔ first.CopiesMeet mode path rendered name other := by
    rw [← copiesMeet_iff, ← UploadMode.localPath_eq_iff hroot (hfile name) (hfile other), hway, hotherWay]
    exact ⟨congrArg _, Except.ok.inj⟩
  exact ⟨_, _, hdest, hotherDest, hlocal, Destination.inAlbum_inj.trans hlocal,
    slash_mem_of_copiesMeet hplain h.ne⟩

theorem areCopies_virtualCopy {name other : Text} (hne : name ≠ other) :
    AreCopies (UploadBatch.virtualCopy name) (UploadBatch.virtualCopy other) "/trips/a.cr2".toList name other where
  raw _ := rfl
  located := rfl
  virtual := rfl
  named := rfl
  otherNamed := rfl
  ne := hne

/-- A mode in which the source folders are copied, and the extensions of the photos go into the names. -/
def copyMode : UploadMode :=
  { keepsExtension := true, copiesTree := true, sourceRoot := .text "/trips".toList }

/-- Where the source folders are copied, the slashes of copy names make directories. -/
theorem destination_copies_apart :
    ∃ dest otherDest,
      (((UploadBatch.virtualCopy "x/1".toList).destination copyMode "a.jpg".toList []).run.run
        { clock := default }).1 = .ok dest ∧
      (((UploadBatch.virtualCopy "y/1".toList).destination copyMode "a.jpg".toList []).run.run
        { clock := default }).1 = .ok otherDest ∧
      dest.remotePath ≠ otherDest.remotePath ∧ dest.localPath ≠ otherDest.localPath := by
  have hcopies := areCopies_virtualCopy (by decide : "x/1".toList ≠ "y/1".toList)
  have hroot : copyMode.root = .ok (Path.slashed "/trips".toList) := UploadMode.root_of_text rfl
  obtain ⟨dest, otherDest, hdest, hotherDest, hlocal, hremote, -⟩ :=
    destination_copies_iff hcopies (by decide : Plain "a.jpg".toList) (fun _ => ⟨_, hroot⟩) []
      { clock := default } { clock := default }
  have hapart : ¬ (UploadBatch.virtualCopy "x/1".toList).CopiesMeet copyMode "/trips/a.cr2".toList "a.jpg".toList
      "x/1".toList "y/1".toList := by decide +kernel
  exact ⟨dest, otherDest, hdest, hotherDest, mt hremote.1 hapart, mt hlocal.1 hapart⟩

/-- A mode in which the files keep their names and lie side by side. -/
def flatMode : UploadMode :=
  { keepsExtension := false, copiesTree := false, sourceRoot := .null }

/-- Where they are not, the slashes cut off what tells the copies apart. -/
theorem destination_copies_cut :
    AreCopies (UploadBatch.virtualCopy "x/1".toList) (UploadBatch.virtualCopy "y/1".toList)
        "/trips/a.cr2".toList "x/1".toList "y/1".toList ∧
      Plain "a.jpg".toList ∧
      ∃ dest,
        (((UploadBatch.virtualCopy "x/1".toList).destination flatMode "a.jpg".toList []).run.run
          { clock := default }).1 = .ok dest ∧
        (((UploadBatch.virtualCopy "y/1".toList).destination flatMode "a.jpg".toList []).run.run
          { clock := default }).1 = .ok dest :=
  ⟨areCopies_virtualCopy (by decide), by decide, ⟨"1.jpg".toList, "1.jpg".toList⟩,
    ok_of_toOption (by decide +kernel), ok_of_toOption (by decide +kernel)⟩

end Photo

end PhotoPublish
