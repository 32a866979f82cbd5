import MmsHttp.CommandLine.Files

namespace MmsHttp.CommandLine

namespace Place

/-- A step leads on from the directory that it starts in, or back on the way to it. -/
theorem isPrefix_of_step {here earlier : Place} {part : String}
    (h : earlier <+: here.step part) (hbefore : earlier ≠ here.step part) : earlier <+: here := by
  have hconcat (name : String) (h : earlier <+: here ++ [name])
      (hbefore : earlier ≠ here ++ [name]) : earlier <+: here :=
    (List.prefix_concat_iff.mp h).resolve_left hbefore
  unfold step at h hbefore
  split at h
  case isTrue hpart =>
    rw [if_pos hpart] at hbefore
    exact hconcat part h hbefore
  case isFalse hpart =>
    rw [if_neg hpart] at hbefore
    split at h
    case isTrue hroot =>
      obtain rfl : here = root := by simpa using hroot
      exact h
    case isFalse hroot =>
      rw [if_neg hroot] at hbefore
      split at h
      case isTrue hup =>
        rw [if_pos hup] at hbefore
        exact hconcat up h hbefore
      case isFalse => exact h.trans (List.dropLast_prefix here)

end Place

namespace Files

/-- A place to which the way leads through directories. -/
def Reachable (files : Files) (place : Place) : Prop :=
  ∀ earlier, earlier <+: place → earlier ≠ place → files.entry? earlier = some .directory

variable {files after : Files} {place : Place}

theorem Reachable.step {here : Place} (hreachable : files.Reachable here)
    (hhere : files.entry? here = some .directory) (part : String) :
    files.Reachable (here.step part) := by
  intro earlier hearlier hbefore
  have hwithin := Place.isPrefix_of_step hearlier hbefore
  by_cases hsame : earlier = here
  · rw [hsame]
    exact hhere
  · exact hreachable earlier hwithin hsame

theorem reachable_start (files : Files) (path : Path) :
    files.Reachable path.start ∧ files.entry? path.start = some .directory := by
  unfold Path.start
  split
  · refine ⟨fun earlier hearlier hbefore => ?_, rfl⟩
    exact absurd (List.prefix_nil.mp hearlier) hbefore
  · refine ⟨fun earlier hearlier hbefore => ?_, rfl⟩
    obtain rfl : earlier = [] := by
      simpa using (List.prefix_concat_iff.mp
        (show earlier <+: [] ++ ["/"] from hearlier)).resolve_left hbefore
    rfl

theorem reachable_follow {here : Place} {parts : List String} (hreachable : files.Reachable here)
    (hhere : files.entry? here = some .directory)
    (h : files.follow here parts = .ok place) : files.Reachable place := by
  induction parts generalizing here with
  | nil =>
      obtain rfl := Except.ok.inj h
      exact hreachable
  | cons part rest ih =>
      have hthere := hreachable.step hhere part
      rw [follow] at h
      split at h
      · cases h
      · dsimp only at h
        split at h
        · obtain rfl := Except.ok.inj h
          exact hthere
        · split at h
          case h_1 hdirectory => exact ih hthere hdirectory h
          · cases h
          · cases h

/-- A way through directories is still there as long as these are. -/
theorem follow_of_directories
    (hkept : ∀ place, files.entry? place = some .directory → after.entry? place = some .directory)
    {here : Place} {parts : List String} (h : files.follow here parts = .ok place) :
    after.follow here parts = .ok place := by
  induction parts generalizing here with
  | nil => exact h
  | cons part rest ih =>
      rw [follow] at h ⊢
      split at h
      · cases h
      case isFalse hlength =>
        rw [if_neg hlength]
        dsimp only at h ⊢
        split at h
        case isTrue hlast => rw [if_pos hlast, h]
        case isFalse hlast =>
          rw [if_neg hlast]
          split at h
          case h_1 hdirectory =>
            rw [hkept _ hdirectory]
            exact ih h
          · cases h
          · cases h

/-- Files that have come to differ at one place, where a file has been written. -/
structure Puts (place : Place) (bytes : Bytes) (before after : Files) : Prop where
  here : after.entry? place = some (.file bytes)
  elsewhere : ∀ other, other ≠ place → after.entry? other = before.entry? other

theorem puts_replaced {old bytes : Bytes} (hfile : files.entry? place = some (.file old)) :
    Puts place bytes files
      (files.map fun file => if file.1 == place then (place, .file bytes) else file) := by
  let replaced (file : Place × Entry) : Place × Entry :=
    if file.1 == place then (place, .file bytes) else file
  have hkey (file : Place × Entry) : (replaced file).1 = file.1 := by
    unfold replaced
    split
    case isTrue hsame => exact (beq_iff_eq.mp hsame).symm
    case isFalse => rfl
  have hfind (other : Place) : (files.map replaced).find? (·.1 == other) =
      (files.find? (·.1 == other)).map replaced := by
    simp only [List.find?_map, Function.comp_def, hkey]
  have hany (other : Place) : (files.map replaced).any (fun file => other.isPrefixOf file.1) =
      files.any (fun file => other.isPrefixOf file.1) := by
    simp only [List.any_map, Function.comp_def, hkey]
  constructor
  case here =>
    unfold entry? at hfile ⊢
    split at hfile
    · cases hfile
    case isFalse hgiven =>
      rw [if_neg hgiven, hfind]
      split at hfile
      case h_1 key entry hfound =>
        have hplace : key = place := by simpa using List.find?_some hfound
        simp [hfound, replaced, hplace]
      case h_2 => split at hfile <;> cases hfile
  case elsewhere =>
    intro other hother
    unfold entry?
    rw [hfind, hany]
    cases hfound : files.find? (·.1 == other) with
    | none => rfl
    | some file =>
        have hsame : file.1 = other := by simpa using List.find?_some hfound
        simp [replaced, hsame, hother]

theorem puts_added {bytes : Bytes} (hreachable : files.Reachable place)
    (hnone : files.entry? place = none) :
    Puts place bytes files (files ++ [(place, .file bytes)]) := by
  constructor
  case here =>
    unfold entry? at hnone ⊢
    split at hnone
    · cases hnone
    case isFalse hgiven =>
      rw [if_neg hgiven]
      split at hnone
      · cases hnone
      case h_2 hfound => simp [List.find?_append, hfound]
  case elsewhere =>
    intro other hother
    have hbefore (hwithin : other <+: place) : files.entry? other = some .directory :=
      hreachable other hwithin hother
    unfold entry? at hbefore ⊢
    split
    · rfl
    case isFalse hgiven =>
      rw [if_neg hgiven] at hbefore
      have hfind : (files ++ [(place, Entry.file bytes)]).find? (·.1 == other) =
          files.find? (·.1 == other) := by
        simp [List.find?_append, hother.symm]
      rw [hfind]
      cases hfound : files.find? (·.1 == other) with
      | some file => rfl
      | none =>
          -- The new file is in a directory that has been there before.
          rw [hfound] at hbefore
          have hmore : ((files ++ [(place, Entry.file bytes)]).any
                fun file => other.isPrefixOf file.1) =
              ((files.any fun file => other.isPrefixOf file.1) || other.isPrefixOf place) := by
            rw [List.any_append, List.any_cons, List.any_nil, Bool.or_false]
          dsimp only at hbefore ⊢
          rw [hmore]
          cases hwithin : other.isPrefixOf place with
          | false => rw [Bool.or_false]
          | true =>
              rw [hbefore (List.isPrefixOf_iff_prefix.mp hwithin), Bool.or_true]
              rfl

theorem write_eq_ok {path : Path} {bytes : Bytes} (h : files.write path bytes = .ok after) :
    ∃ place, files.place path = .ok place ∧ files.entry? place ≠ some .directory ∧
      Puts place bytes files after := by
  cases hplace : files.place path with
  | error obstacle =>
      simp only [write, hplace, bind, Except.bind] at h
      cases h
  | ok place =>
      have hfollow : files.follow path.start path.parts = .ok place := by
        unfold Files.place at hplace
        split at hplace
        · cases hplace
        · exact hplace
      obtain ⟨hstart, hdirectory⟩ := files.reachable_start path
      have hreachable := reachable_follow hstart hdirectory hfollow
      refine ⟨place, rfl, ?_⟩
      simp only [write, hplace, bind, Except.bind] at h
      split at h
      case h_1 old hfile =>
        obtain rfl := Except.ok.inj h
        exact ⟨by simp [hfile], puts_replaced hfile⟩
      case h_2 => cases h
      case h_3 hnone =>
        obtain rfl := Except.ok.inj h
        exact ⟨by simp [hnone], puts_added hreachable hnone⟩

/-- A path under which a file was written leads to that file, and nothing else has changed. -/
theorem puts_of_write {path : Path} {bytes : Bytes} (h : files.write path bytes = .ok after) :
    ∃ place, files.place path = .ok place ∧ Puts place bytes files after ∧
      after.read path = .ok bytes := by
  obtain ⟨place, hplace, hfile, hputs⟩ := write_eq_ok h
  refine ⟨place, hplace, hputs, ?_⟩
  have hkept (other : Place) (hdirectory : files.entry? other = some .directory) :
      after.entry? other = some .directory := by
    have hother : other ≠ place := by
      rintro rfl
      exact hfile hdirectory
    rw [hputs.elsewhere other hother, hdirectory]
  have hsame : after.place path = .ok place := by
    unfold Files.place at hplace ⊢
    split at hplace
    · cases hplace
    case isFalse hzero =>
      rw [if_neg hzero]
      exact follow_of_directories hkept hplace
  simp only [read, hsame, hputs.here, bind, Except.bind]
  rfl

end Files

end MmsHttp.CommandLine
