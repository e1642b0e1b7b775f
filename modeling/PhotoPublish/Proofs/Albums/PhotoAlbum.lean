import PhotoPublish.Proofs.Albums.CheckList

/-!
# The album of a photo

The album of a photo is read off the first line of its path. It is all that stands in front of the last slash if
there is no line break in it (`albumOf?_directory`), and otherwise at most a directory above that
(`albumOf?_above`), or none. An album that is refused keeps those above it out as well
(`insert?_above_eq_none`), so that the difference does not show then.

* `noteAlbum_eq_add_iff`: when noting a photo adds the directory it lies in.
-/

set_option autoImplicit false

namespace PhotoPublish.CheckList

variable {list : CheckList} {path name album directory : Text}

/-! ## Reading off the album -/

theorem startsFile_of_notMem (h : '/' ∉ name) : startsFile name = false := by
  cases name with
  | nil => rfl
  | cons c rest =>
    have hc : c ≠ '/' := fun heq => h (heq ▸ List.mem_cons_self)
    unfold startsFile
    split
    · rename_i heq
      exact absurd (List.cons.inj heq).1 hc
    · rfl

/-- A name is in no album. -/
theorem albumOf?_name (h : '/' ∉ name) : albumOf? name = none := by
  induction name with
  | nil => rfl
  | cons c rest ih =>
    have hrest : '/' ∉ rest := fun hmem => h (List.mem_cons_of_mem c hmem)
    unfold albumOf?
    rw [ih hrest, startsFile_of_notMem hrest]
    exact ite_self none

/-- A name behind a slash at the start is in no album. -/
theorem albumOf?_slash_name (h : '/' ∉ name) : albumOf? ('/' :: name) = none := by
  rw [albumOf?, albumOf?_name h, startsFile_of_notMem h]
  exact ite_self none

/-- **The album is all that stands in front of the last slash**, if it is on one line. -/
theorem albumOf?_directory (hline : '\n' ∉ directory) (hne : directory ≠ []) (hname : '/' ∉ name)
    (hnamed : name ≠ []) : albumOf? (directory ++ '/' :: name) = some directory := by
  induction directory with
  | nil => exact absurd rfl hne
  | cons c rest ih =>
    rw [List.mem_cons, not_or] at hline
    rw [List.cons_append, albumOf?, if_neg (Ne.symm hline.1)]
    cases rest with
    | nil =>
      obtain ⟨d, more, rfl⟩ := List.exists_cons_of_ne_nil hnamed
      have hd : d ≠ '/' := fun heq => hname (heq ▸ List.mem_cons_self)
      have hstarts : startsFile ('/' :: d :: more) = true := bne_iff_ne.2 hd
      rw [List.nil_append, albumOf?_slash_name hname]
      exact if_pos hstarts
    | cons d more => rw [ih hline.2 (List.cons_ne_nil d more)]

/-- What is read off is followed by a slash, and is on one line. -/
theorem of_albumOf? (h : albumOf? path = some album) : album ++ ['/'] <+: path ∧ '\n' ∉ album := by
  induction path generalizing album with
  | nil => cases h
  | cons c rest ih =>
    unfold albumOf? at h
    split at h
    · cases h
    · rename_i hc
      split at h
      · rename_i above habove
        obtain rfl := Option.some.inj h
        obtain ⟨hbegins, hline⟩ := ih habove
        refine ⟨List.cons_prefix_cons.2 ⟨rfl, hbegins⟩, ?_⟩
        rw [List.mem_cons, not_or]
        exact ⟨Ne.symm hc, hline⟩
      · split at h
        · rename_i hstarts
          obtain rfl := Option.some.inj h
          refine ⟨List.cons_prefix_cons.2 ⟨rfl, ?_⟩, by simpa using Ne.symm hc⟩
          unfold startsFile at hstarts
          split at hstarts
          · exact List.cons_prefix_cons.2 ⟨rfl, List.nil_prefix⟩
          · cases hstarts
        · cases h

/-- **Of a directory with a line break at most one above it is read off.** -/
theorem albumOf?_above (hline : '\n' ∈ directory) (h : albumOf? (directory ++ '/' :: name) = some album) :
    album ++ ['/'] <+: directory := by
  obtain ⟨hbegins, hnot⟩ := of_albumOf? h
  rcases List.prefix_or_prefix_of_prefix hbegins (List.prefix_append directory ('/' :: name)) with
    habove | hbelow
  · exact habove
  · have hmem := hbelow.subset hline
    rw [List.mem_append, List.mem_singleton] at hmem
    exact absurd hmem (not_or_intro hnot (by decide))

/-! ## Albums above others -/

/-- An album that is refused keeps those above it out. -/
theorem insert?_above_eq_none (habove : album <+: directory) (h : insert? directory list = none) :
    insert? album list = none := by
  induction list with
  | nil => cases h
  | cons first rest ih =>
    unfold insert? at h ⊢
    by_cases hbegins : album <+: first
    · exact if_pos (List.isPrefixOf_iff_prefix.2 hbegins)
    · have hnotBelow : ¬ directory <+: first := fun hdirectory => hbegins (habove.trans hdirectory)
      rw [if_neg (mt List.isPrefixOf_iff_prefix.1 hnotBelow)] at h
      rw [if_neg (mt List.isPrefixOf_iff_prefix.1 hbegins)]
      split at h
      · cases h
      · rename_i hlonger
        have hlength := habove.length_le
        rw [if_neg (by omega), ih (Option.map_eq_none_iff.1 h)]
        rfl

/-- An album that gets in is in the list once more, and no other one is. -/
theorem count_add (list : CheckList) (album other : Text) :
    (list.add album).1.count other =
      list.count other + if (list.add album).2 = true ∧ album = other then 1 else 0 := by
  rcases add_cases list album with ⟨front, back, rfl, hadd⟩ | hadd
  · rw [hadd, List.count_append, List.count_append, List.count_cons, ← Nat.add_assoc]
    simp
  · rw [hadd, if_neg (fun hin => nomatch hin.1)]
    rfl

/-- A list in which a directory is not more often than before is not the one with the directory added, unless
that is refused. -/
theorem refuses_of_eq_add {other : CheckList} (hcount : other.count directory = list.count directory)
    (h : other = (list.add directory).1) : (list.add directory).2 = false := by
  rw [h, count_add] at hcount
  cases hin : (list.add directory).2 with
  | true =>
    rw [hin, if_pos ⟨rfl, rfl⟩] at hcount
    omega
  | false => rfl

theorem add_of_refused (h : (list.add album).2 = false) : list.add album = (list, false) := by
  rcases add_cases list album with ⟨front, back, -, hadd⟩ | hadd
  · rw [hadd] at h
    cases h
  · exact hadd

theorem eq_add_iff : list = (list.add directory).1 ↔ (list.add directory).2 = false :=
  ⟨refuses_of_eq_add rfl, fun h => by rw [add_of_refused h]⟩

/-- **Adding an album above a directory adds the directory only if that is refused.** -/
theorem add_above_eq_iff (habove : album <+: directory) (hne : album ≠ directory) :
    (list.add album).1 = (list.add directory).1 ↔ (list.add directory).2 = false := by
  constructor
  · refine refuses_of_eq_add ?_
    rw [count_add, if_neg fun hin => hne hin.2, Nat.add_zero]
  · intro h
    have hrefused := add_of_refused h
    rw [hrefused, add_eq_false_iff.2 (insert?_above_eq_none habove (add_eq_false_iff.1 hrefused))]

/-! ## Noting photos -/

/-- **When noting a photo adds its directory.** The directory has to be on one line, unless the list refuses it
anyhow. Photos outside directories, and those in the root, are not noted. -/
theorem noteAlbum_eq_add_iff (list : CheckList) (hname : '/' ∉ name) :
    (directory ≠ [] → name ≠ [] →
        (list.noteAlbum (directory ++ '/' :: name) = (list.add directory).1 ↔
          '\n' ∉ directory ∨ (list.add directory).2 = false)) ∧
      list.noteAlbum name = list ∧ list.noteAlbum ('/' :: name) = list := by
  refine ⟨fun hne hnamed => ?_, ?_, ?_⟩
  · by_cases hline : '\n' ∈ directory
    · rw [or_iff_right (not_not_intro hline), noteAlbum]
      cases halbum : albumOf? (directory ++ '/' :: name) with
      | none => exact eq_add_iff
      | some album =>
        have habove := albumOf?_above hline halbum
        refine add_above_eq_iff ((List.prefix_append album ['/']).trans habove) ?_
        rintro rfl
        have hlength := habove.length_le
        rw [List.length_append, List.length_singleton] at hlength
        omega
    · rw [noteAlbum, albumOf?_directory hline hne hname hnamed]
      exact iff_of_true rfl (.inl hline)
  · rw [noteAlbum, albumOf?_name hname]
  · rw [noteAlbum, albumOf?_slash_name hname]

/-- A directory with an empty name in it, and a file name with a line break, are taken as they are. -/
theorem noteAlbum_eq_add_slashes :
    noteAlbum ["a/bc".toList] "a//b/\nc.jpg".toList = (add ["a/bc".toList] "a//b".toList).1 := by
  have hnote := @noteAlbum_eq_add_iff "\nc.jpg".toList "a//b".toList ["a/bc".toList] (by decide)
  exact (hnote.1 (by decide) (by decide)).2 (.inl (by decide))

/-- A directory with a line break is not noted. -/
theorem noteAlbum_line_break :
    noteAlbum [] ("a\nb".toList ++ '/' :: "c.jpg".toList) ≠ (add [] "a\nb".toList).1 := by
  decide +kernel

end PhotoPublish.CheckList
