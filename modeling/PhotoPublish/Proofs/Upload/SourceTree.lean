import PhotoPublish.Proofs.Path.Relative
import PhotoPublish.Proofs.Upload.FlatName

/-!
# Uploads that mirror the source folders

If the source folders are copied, a photo is uploaded to the way that leads from their root to the rendered file,
which lies next to the photo. Places are compared as the names that lead to them, so that neither the spelling of
the paths nor names that begin alike matter.

* `UploadMode.localPath_of_root`: the local path is a relative path.
* `Photo.destination_mirrors`: where a photo goes that needs no mark in its name.
-/

set_option autoImplicit false

namespace PhotoPublish

/-! ## The root of the source folders -/

namespace UploadMode

variable {mode : UploadMode} {root : Text}

theorem root_of_text (h : mode.sourceRoot = .text root) : mode.root = .ok (Path.slashed root) := by
  unfold UploadMode.root
  rw [h]
  cases root with
  | nil => rfl
  | cons c rest => rfl

/-- **The local path is the relative path from the root of the source folders.** -/
theorem localPath_of_root (htree : mode.copiesTree = true) (hroot : mode.root = .ok root) (path : Text) :
    mode.localPath path = Path.relative path root := by
  unfold UploadMode.root at hroot
  unfold localPath
  rw [if_pos htree]
  by_cases hset : mode.sourceRoot.isSet = true
  · rw [if_pos hset] at hroot ⊢
    rw [hroot]
    rfl
  · rw [if_neg hset] at hroot ⊢
    obtain rfl := Except.ok.inj hroot
    rfl

end UploadMode

/-! ## Destinations that mirror a place -/

namespace Destination

/-- A destination that mirrors where a file lies from a root on. -/
structure Mirrors (dest : Destination) (root album : Text) (file : List Text) : Prop where
  /-- The local path leads from the root to the file. -/
  leads : Path.absolute (root ++ '/' :: dest.localPath) = file
  isRelative : dest.localPath.head? ≠ some '/'
  noneEmpty : [] ∉ Text.splitOn '/' dest.localPath
  climbs_iff : Path.above ∈ Text.splitOn '/' dest.localPath ↔ ¬ Path.absolute root <+: file
  /-- What lies below the root goes below the album. -/
  stays : Path.absolute root <+: file → Path.absolute album <+: Path.absolute dest.remotePath

/-- **A relative path makes a destination that mirrors its target.** -/
theorem mirrors_of_relative {file root way : Text} (h : Path.relative file root = .ok way) (album : Text) :
    Mirrors ⟨way, inAlbum album way⟩ root album (Path.absolute file) where
  leads := Path.absolute_relative h
  isRelative := Path.head?_relative h
  noneEmpty := Path.nil_notMem_relative h
  climbs_iff := Path.above_mem_relative h
  stays hbelow := by
    unfold inAlbum
    split
    · rename_i hempty
      rw [List.isEmpty_iff.1 hempty]
      exact List.nil_prefix
    · rw [Path.absolute_append_cons]
      exact Path.prefix_follow_relative h hbelow _

end Destination

/-! ## Files next to their photos -/

namespace Original

variable {original : Original} {mode : UploadMode} {filename : Text}

/-- Without marks the path of a file is the file next to the source. -/
theorem path_of_unmarked (hcopy : original.copyName? = none)
    (hmarked : original.isMarked mode (Path.extension filename) = false) :
    original.path mode filename = Path.inside (Path.directory original.source) filename := by
  unfold path namedPath
  rw [hmarked, hcopy, if_neg nofun]

end Original

namespace Photo

/-- A photo whose rendered file keeps its name and place when the source folders are copied: it is no virtual copy,
and its extension does not go into the name. -/
structure KeepsPlace (photo : Photo) (mode : UploadMode) (path root rendered : Text) : Prop where
  copied : mode.copiesTree = true
  rooted : mode.sourceRoot = .text root
  located : photo.raw.get pathKey = .text path
  noCopy : (photo.raw.get virtualCopyKey).isSet = false
  unmarked : ¬ photo.IsMarked mode path rendered
  plain : Plain rendered
  named : rendered ≠ []

variable {photo : Photo} {mode : UploadMode} {path root rendered : Text}

/-- A photo that keeps its place gets the way to the file next to it. -/
theorem KeepsPlace.exists_destination (h : KeepsPlace photo mode path root rendered) (album : Text)
    (visit : Visit) :
    ∃ file, Path.absolute file = Path.beside (Path.slashed path) rendered ∧
      ∃ way, Path.relative file (Path.slashed root) = .ok way ∧
        ((photo.destination mode rendered album).run.run visit).1 =
          .ok ⟨way, Destination.inAlbum album way⟩ := by
  obtain ⟨original, horiginal, hdescribes⟩ := @exists_original photo path [] h.located fun hset => by
    rw [h.noCopy] at hset
    cases hset
  have hcopy : original.copyName? = none := by rw [hdescribes.copy, h.noCopy, if_neg nofun]
  have hmarked : original.isMarked mode (Path.extension rendered) = false :=
    Bool.eq_false_iff.2 (mt hdescribes.isMarked_iff.1 h.unmarked)
  have hfile := Original.path_of_unmarked hcopy hmarked
  have hne : original.path mode rendered ≠ [] := by
    rw [hfile, Path.inside_eq _ h.plain.slash_notMem]
    exact List.append_ne_nil_of_right_ne_nil _ h.named
  have hway := Path.relative_eq hne (Path.slashed root)
  refine ⟨_, ?_, _, hway, ?_⟩
  · rw [hfile, Path.absolute_inside_directory _ h.plain.slash_notMem, hdescribes.source]
  · rw [destination_of_original horiginal,
      UploadMode.localPath_of_root h.copied (UploadMode.root_of_text h.rooted), hway]
    rfl

/-- **A photo that keeps its place mirrors the source folders**: its local path leads from their root to the rendered
file next to it, which may be anywhere, and goes up only if it has to. Files at different places have different
local paths. -/
theorem destination_mirrors (h : KeepsPlace photo mode path root rendered) (album : Text) (visit : Visit) :
    ∃ dest, ((photo.destination mode rendered album).run.run visit).1 = .ok dest ∧
      Destination.Mirrors dest (Path.slashed root) album (Path.beside (Path.slashed path) rendered) ∧
      ∀ {other : Photo} {otherMode : UploadMode} {otherPath otherRendered : Text},
        KeepsPlace other otherMode otherPath root otherRendered →
        Path.beside (Path.slashed path) rendered ≠ Path.beside (Path.slashed otherPath) otherRendered →
        ∀ otherAlbum otherVisit otherDest,
          ((other.destination otherMode otherRendered otherAlbum).run.run otherVisit).1 = .ok otherDest →
          dest.localPath ≠ otherDest.localPath := by
  obtain ⟨file, hfile, way, hway, hdest⟩ := h.exists_destination album visit
  refine ⟨_, hdest, hfile ▸ Destination.mirrors_of_relative hway album, ?_⟩
  intro other otherMode otherPath otherRendered hother hne otherAlbum otherVisit otherDest hotherDest hsame
  obtain ⟨otherFile, hotherFile, otherWay, hotherWay, hresult⟩ :=
    hother.exists_destination otherAlbum otherVisit
  obtain rfl := Except.ok.inj (hresult.symm.trans hotherDest)
  obtain rfl : way = otherWay := hsame
  refine hne ?_
  rw [← hfile, ← hotherFile, ← Path.absolute_relative hway, ← Path.absolute_relative hotherWay]

/-- A photo next to a directory whose name goes on from the root's, in the spelling of the host. -/
def spelled : Photo :=
  { raw := [(pathKey, .text "C:\\photos2\\.\\trips//old\\..\\a.CR2".toList)] }

/-- A mode in which the source folders are copied from a root with a trailing separator. -/
def spelledMode : UploadMode :=
  { keepsExtension := false, copiesTree := true, sourceRoot := .text "/C:/photos/".toList }

/-- Names that begin alike are different names. -/
theorem destination_mirrors_spelled :
    ∃ dest, ((spelled.destination spelledMode "a.jpg".toList "best".toList).run.run
        { clock := default }).1 = .ok dest ∧
      Destination.Mirrors dest "/C:/photos/".toList "best".toList
        ["C:".toList, "photos2".toList, "trips".toList, "a.jpg".toList] ∧
      dest.localPath = "../photos2/trips/a.jpg".toList := by
  have hkeeps : KeepsPlace spelled spelledMode "C:\\photos2\\.\\trips//old\\..\\a.CR2".toList
      "/C:/photos/".toList "a.jpg".toList := ⟨rfl, rfl, rfl, rfl, by decide, by decide, by decide⟩
  obtain ⟨dest, hdest, hmirrors, -⟩ := destination_mirrors hkeeps "best".toList { clock := default }
  have hresult : ((spelled.destination spelledMode "a.jpg".toList "best".toList).run.run
      { clock := default }).1 = .ok ⟨"../photos2/trips/a.jpg".toList, "best/../photos2/trips/a.jpg".toList⟩ :=
    ok_of_toOption (by decide +kernel)
  have hplace : Path.beside (Path.slashed "C:\\photos2\\.\\trips//old\\..\\a.CR2".toList) "a.jpg".toList =
      ["C:".toList, "photos2".toList, "trips".toList, "a.jpg".toList] := by decide +kernel
  have hroot : Path.slashed "/C:/photos/".toList = "/C:/photos/".toList := by decide
  rw [hplace, hroot] at hmirrors
  exact ⟨dest, hdest, hmirrors, by rw [← Except.ok.inj (hresult.symm.trans hdest)]⟩

end Photo

end PhotoPublish
