import Mathlib.Data.List.Induction
import PhotoPublish.Albums.CheckList

/-!
# What a check list holds

Along every run the lengths of the albums do not increase (`Ordered`, `run_ordered`). On such a list an
offered album is refused if a longer entry begins with it, or if it is itself the first entry that is not
longer (`insert?_eq_none_iff`). An entry that is equally long and stands before it hides it: `Shadowed`
albums are let in once more.

* `run_dedup_iff`: an album is refused exactly if some entry begins with it, unless it is shadowed; and the
  lists along a run hold no album twice exactly if no shadowed album is offered.
-/

set_option autoImplicit false

namespace PhotoPublish.CheckList

/-! ## Order -/

/-- The lengths do not increase along the list. -/
def Ordered (list : CheckList) : Prop :=
  list.Pairwise fun a b => b.length ≤ a.length

variable {list longer : CheckList} {album : Text}

/-- Where an album is let in: behind longer albums, in front of the first that is not longer. -/
theorem insert?_eq_some (h : insert? album list = some longer) :
    ∃ before after, list = before ++ after ∧ longer = before ++ album :: after ∧
      (∀ entry ∈ before, album.length < entry.length) ∧
      ∀ entry, after.head? = some entry → entry.length ≤ album.length := by
  induction list generalizing longer with
  | nil =>
    obtain rfl : [album] = longer := Option.some.inj h
    exact ⟨[], [], rfl, rfl, nofun, nofun⟩
  | cons head rest ih =>
    unfold insert? at h
    split at h
    · cases h
    · split at h
      · rename_i hle
        obtain rfl : album :: head :: rest = longer := Option.some.inj h
        refine ⟨[], head :: rest, rfl, rfl, nofun, ?_⟩
        rintro _ ⟨⟩
        exact hle
      · rename_i hlt
        obtain ⟨longer', hrest, rfl⟩ := Option.map_eq_some_iff.1 h
        obtain ⟨before, after, rfl, rfl, hbefore, hafter⟩ := ih hrest
        refine ⟨head :: before, after, rfl, rfl, fun entry hentry => ?_, hafter⟩
        rcases List.mem_cons.1 hentry with rfl | hmem
        · omega
        · exact hbefore entry hmem

theorem Ordered.insert (hlist : Ordered list) (h : insert? album list = some longer) :
    Ordered longer := by
  obtain ⟨before, after, rfl, rfl, hbefore, hafter⟩ := insert?_eq_some h
  obtain ⟨hb, ha, hcross⟩ := List.pairwise_append.1 hlist
  have hnot : ∀ entry ∈ after, entry.length ≤ album.length := by
    cases after with
    | nil => nofun
    | cons head rest =>
      have hhead := hafter head rfl
      intro entry hentry
      rcases List.mem_cons.1 hentry with rfl | hmem
      · exact hhead
      · exact Nat.le_trans ((List.pairwise_cons.1 ha).1 entry hmem) hhead
  refine List.pairwise_append.2 ⟨hb, List.pairwise_cons.2 ⟨hnot, ha⟩, fun x hx y hy => ?_⟩
  rcases List.mem_cons.1 hy with rfl | hmem
  · exact Nat.le_of_lt (hbefore x hx)
  · exact hcross x hx y hmem

theorem Ordered.add (hlist : Ordered list) (album : Text) : Ordered (list.add album).1 := by
  unfold CheckList.add
  split
  · rename_i h
    exact hlist.insert h
  · exact hlist

/-! ## Changes -/

namespace Event

/-- The album that a change offers to the list. -/
def offered? : Event → Option Text
  | add album => some album
  | note photoPath => albumOf? photoPath
  | drain => none

/-- A change offers an album, or it leaves the list alone, or it takes the first album. -/
theorem apply_cases (event : Event) (list : CheckList) :
    (∃ album, event.offered? = some album ∧ event.apply list = (list.add album).1) ∨
      (event.offered? = none ∧ (event.apply list = list ∨ event.apply list = list.tail)) := by
  cases event with
  | add album => exact .inl ⟨album, rfl, rfl⟩
  | note photoPath =>
    simp only [offered?, apply, noteAlbum]
    cases albumOf? photoPath with
    | none => exact .inr ⟨rfl, .inl rfl⟩
    | some album => exact .inl ⟨album, rfl, rfl⟩
  | drain => exact .inr ⟨rfl, .inr rfl⟩

end Event

theorem Ordered.apply (hlist : Ordered list) (event : Event) : Ordered (event.apply list) := by
  rcases event.apply_cases list with ⟨album, -, happly⟩ | ⟨-, happly | happly⟩
  · rw [happly]
    exact hlist.add album
  · rw [happly]
    exact hlist
  · rw [happly]
    exact hlist.sublist (List.tail_sublist list)

theorem run_append (list : CheckList) (events later : List Event) :
    list.run (events ++ later) = (list.run events).run later :=
  List.foldl_append ..

theorem Ordered.run (hlist : Ordered list) (events : List Event) : Ordered (list.run events) := by
  induction events generalizing list with
  | nil => exact hlist
  | cons event events ih => exact ih (hlist.apply event)

/-- **Along every run the longest albums come first.** -/
theorem run_ordered (events : List Event) : Ordered (run [] events) :=
  Ordered.run List.Pairwise.nil events

/-! ## Refusals -/

/-- The first entry that is not longer than an album. -/
def firstNotLonger? (list : CheckList) (album : Text) : Option Text :=
  list.find? fun entry => entry.length ≤ album.length

/-- Some entry that is longer than an album begins with it. -/
def LongerCovers (list : CheckList) (album : Text) : Prop :=
  ∃ entry ∈ list, album.length < entry.length ∧ album <+: entry

/-- An entry of the list that no longer one covers and that stands behind another one of its length. -/
structure Shadowed (list : CheckList) (album : Text) : Prop where
  mem : album ∈ list
  uncovered : ¬ LongerCovers list album
  behind : list.firstNotLonger? album ≠ some album

/-- **Which albums are refused.** The search for the place ends at the first entry that is not longer. -/
theorem insert?_eq_none_iff (hlist : Ordered list) :
    insert? album list = none ↔
      LongerCovers list album ∨ list.firstNotLonger? album = some album := by
  induction list with
  | nil => simp [insert?, LongerCovers, firstNotLonger?]
  | cons head rest ih =>
    obtain ⟨hhead, hrest⟩ := List.pairwise_cons.1 hlist
    unfold insert?
    by_cases hbegins : album <+: head
    · rw [if_pos (List.isPrefixOf_iff_prefix.2 hbegins)]
      refine iff_of_true rfl ?_
      rcases Nat.lt_or_ge album.length head.length with hlt | hge
      · exact .inl ⟨head, List.mem_cons_self, hlt, hbegins⟩
      · obtain rfl := hbegins.eq_of_length_le hge
        exact .inr (by simp [firstNotLonger?])
    · rw [if_neg (mt List.isPrefixOf_iff_prefix.1 hbegins)]
      by_cases hle : head.length ≤ album.length
      · rw [if_pos hle]
        refine iff_of_false nofun ?_
        rintro (⟨entry, hentry, hlt, -⟩ | hfirst)
        · rcases List.mem_cons.1 hentry with rfl | hmem
          · omega
          · have := hhead entry hmem
            omega
        · rw [firstNotLonger?, List.find?_cons_of_pos (by simpa using hle)] at hfirst
          obtain rfl := Option.some.inj hfirst
          exact hbegins (List.prefix_refl _)
      · rw [if_neg hle, Option.map_eq_none_iff, ih hrest, firstNotLonger?,
          firstNotLonger?, List.find?_cons_of_neg (by simpa using hle)]
        refine or_congr_left ⟨?_, ?_⟩
        · rintro ⟨entry, hentry, h⟩
          exact ⟨entry, List.mem_cons_of_mem _ hentry, h⟩
        · rintro ⟨entry, hentry, hlt, hcovers⟩
          rcases List.mem_cons.1 hentry with rfl | hmem
          · exact absurd hcovers hbegins
          · exact ⟨entry, hmem, hlt, hcovers⟩

theorem add_eq_false_iff : list.add album = (list, false) ↔ insert? album list = none := by
  unfold CheckList.add
  split
  · rename_i h
    simp [h]
  · rename_i h
    simp [h]

/-- An offered album gets in between two entries, or the list stays as it is. -/
theorem add_cases (list : CheckList) (album : Text) :
    (∃ front back, list = front ++ back ∧ list.add album = (front ++ album :: back, true)) ∨
      list.add album = (list, false) := by
  cases hinsert : insert? album list with
  | some longer =>
    obtain ⟨front, back, hlist, rfl, -, -⟩ := insert?_eq_some hinsert
    exact .inl ⟨front, back, hlist, by simp only [CheckList.add, hinsert]⟩
  | none => exact .inr (add_eq_false_iff.2 hinsert)

/-- Some entry begins with an album exactly if a longer one does or the album is in the list. -/
theorem covers_iff :
    (∃ entry ∈ list, album <+: entry) ↔ LongerCovers list album ∨ album ∈ list := by
  constructor
  · rintro ⟨entry, hentry, hbegins⟩
    rcases Nat.lt_or_ge album.length entry.length with hlt | hge
    · exact .inl ⟨entry, hentry, hlt, hbegins⟩
    · obtain rfl := hbegins.eq_of_length_le hge
      exact .inr hentry
  · rintro (⟨entry, hentry, -, hbegins⟩ | hmem)
    · exact ⟨entry, hentry, hbegins⟩
    · exact ⟨album, hmem, List.prefix_refl _⟩

theorem mem_of_firstNotLonger? (h : list.firstNotLonger? album = some album) : album ∈ list :=
  List.mem_of_find?_eq_some h

/-- **An album is refused exactly if some entry begins with it, unless it is shadowed.** -/
theorem add_refuses_iff (hlist : Ordered list) :
    (list.add album = (list, false) ↔ ∃ entry ∈ list, album <+: entry) ↔
      ¬ Shadowed list album := by
  rw [add_eq_false_iff, insert?_eq_none_iff hlist, covers_iff]
  constructor
  · rintro hiff ⟨hmem, huncovered, hbehind⟩
    rcases hiff.2 (.inr hmem) with hlonger | hfirst
    · exact huncovered hlonger
    · exact hbehind hfirst
  · intro hshadowed
    refine ⟨Or.imp_right mem_of_firstNotLonger?, ?_⟩
    rintro (hlonger | hmem)
    · exact .inl hlonger
    · refine Classical.byContradiction fun hneither => ?_
      obtain ⟨huncovered, hbehind⟩ := not_or.1 hneither
      exact hshadowed ⟨hmem, huncovered, hbehind⟩

/-! ## Repetitions -/

/-- An album that is not shadowed is let in only if it is not in the list. -/
theorem add_nodup_iff (hlist : Ordered list) (hnodup : list.Nodup) :
    (list.add album).1.Nodup ↔ ¬ Shadowed list album := by
  cases hinsert : insert? album list with
  | none =>
    have hadd := add_eq_false_iff.2 hinsert
    rw [hadd]
    refine iff_of_true hnodup fun hshadowed => ?_
    rcases (insert?_eq_none_iff hlist).1 hinsert with hlonger | hfirst
    · exact hshadowed.uncovered hlonger
    · exact hshadowed.behind hfirst
  | some longer =>
    have hadd : (list.add album).1 = longer := by simp [CheckList.add, hinsert]
    have hne : insert? album list ≠ none := by
      rw [hinsert]
      exact nofun
    obtain ⟨huncovered, hbehind⟩ := not_or.1 (mt (insert?_eq_none_iff hlist).2 hne)
    obtain ⟨before, after, rfl, rfl, -, -⟩ := insert?_eq_some hinsert
    have hperm : (before ++ album :: after).Perm (album :: (before ++ after)) :=
      List.perm_middle
    rw [hadd, hperm.nodup_iff, List.nodup_cons]
    constructor
    · rintro ⟨hnotMem, -⟩ hshadowed
      exact hnotMem hshadowed.mem
    · intro hshadowed
      exact ⟨fun hmem => hshadowed ⟨hmem, huncovered, hbehind⟩, hnodup⟩

/-- A run whose lists all hold no album twice. -/
def NeverTwice (events : List Event) : Prop :=
  ∀ done rest, events = done ++ rest → (run [] done).Nodup

/-- A run that offers no album that is shadowed at that moment. -/
def OffersNoShadowed (events : List Event) : Prop :=
  ∀ done event rest, events = done ++ event :: rest →
    ∀ album, event.offered? = some album → ¬ Shadowed (run [] done) album

theorem run_concat (list : CheckList) (events : List Event) (event : Event) :
    list.run (events ++ [event]) = event.apply (list.run events) := by
  rw [run_append]
  rfl

theorem neverTwice_iff (events : List Event) : NeverTwice events ↔ OffersNoShadowed events := by
  constructor
  · intro hnever done event rest hevents album hoffered
    have hbefore := hnever done (event :: rest) hevents
    have hafter := hnever (done ++ [event]) rest (by rw [hevents, List.append_assoc]; rfl)
    rw [run_concat] at hafter
    rcases event.apply_cases (run [] done) with ⟨album', hoffered', happly⟩ | ⟨hnone, -⟩
    · obtain rfl : album = album' := Option.some.inj (hoffered.symm.trans hoffered')
      rw [happly] at hafter
      exact (add_nodup_iff (run_ordered done) hbefore).1 hafter
    · rw [hnone] at hoffered
      cases hoffered
  · intro hoffers done
    -- The list after a change is the list before it, changed: the induction takes off the last change.
    induction done using List.reverseRecOn with
    | nil => exact fun _ _ => List.nodup_nil
    | append_singleton done event ih =>
      intro rest hevents
      have hsplit : events = done ++ event :: rest := by
        rw [hevents, List.append_assoc]
        rfl
      have hbefore := ih (event :: rest) hsplit
      rw [run_concat]
      rcases event.apply_cases (run [] done) with ⟨album, hoffered, happly⟩ | ⟨-, happly | happly⟩
      · rw [happly]
        exact (add_nodup_iff (run_ordered done) hbefore).2
          (hoffers done event rest hsplit album hoffered)
      · rw [happly]
        exact hbefore
      · rw [happly]
        exact hbefore.sublist (List.tail_sublist _)

/-- **When a check list deduplicates.** After any run an album is refused exactly if some entry begins with
it, unless it is shadowed; and no list along a run holds an album twice exactly if the run never offers a
shadowed album. -/
theorem run_dedup_iff (events : List Event) :
    (∀ album, ((run [] events).add album = (run [] events, false) ↔
        ∃ entry ∈ run [] events, album <+: entry) ↔ ¬ Shadowed (run [] events) album) ∧
      (NeverTwice events ↔ OffersNoShadowed events) :=
  ⟨fun _ => add_refuses_iff (run_ordered events), neverTwice_iff events⟩

/-- The second of two equally long albums hides the first, which is let in again. -/
theorem run_aa_bb_aa :
    ¬ ((run [] [.add "aa".toList, .add "bb".toList]).add "aa".toList =
          (run [] [.add "aa".toList, .add "bb".toList], false) ↔
        ∃ entry ∈ run [] [.add "aa".toList, .add "bb".toList], "aa".toList <+: entry) ∧
      ¬ (run [] [.add "aa".toList, .add "bb".toList, .add "aa".toList]).Nodup := by
  decide +kernel

end PhotoPublish.CheckList
