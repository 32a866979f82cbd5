import MmsHttp.Proofs.Headers
import MmsHttp.Request

/-!
What a carrier's extra headers make of a request. Put in one after the other, they come to this:
the base headers that none of them names, and behind them the last extra header of each name.
-/

namespace MmsHttp

namespace Headers

open Text

/-- The headers whose names no later header repeats. -/
def lastOfEach : List Header → List Header
  | [] => []
  | header :: later =>
    if has later header.1 then lastOfEach later else header :: lastOfEach later

/-- The headers whose names do not occur among the given ones. -/
def unnamedBy (extra headers : List Header) : List Header :=
  headers.filter fun header => !has extra header.1

theorem sameName_comm (a b : String) : sameName a b = sameName b a := by
  simp only [sameName, Bool.beq_comm]

theorem named_congr {name other : String} (h : lowered name = lowered other) :
    named name = named other := by
  funext header
  simp only [named, sameName, h]

theorem has_congr (headers : List Header) {name other : String} (h : lowered name = lowered other) :
    has headers name = has headers other := by
  simp only [has, named_congr h]

theorem has_cons (header : Header) (headers : List Header) (name : String) :
    has (header :: headers) name = (named name header || has headers name) :=
  List.any_cons

theorem has_eq_false_iff (headers : List Header) (name : String) :
    has headers name = false ↔ headers.filter (named name) = [] := by
  simp [has]

/-- Of a name that is not among the given ones every header stays, of one that is none. -/
theorem filter_named_unnamedBy (extra headers : List Header) (name : String) :
    (unnamedBy extra headers).filter (named name) =
      if has extra name then [] else headers.filter (named name) := by
  have hsame (header : Header) (h : named name header = true) :
      has extra header.1 = has extra name :=
    has_congr extra ((named_eq_true_iff _ _).mp h)
  rw [unnamedBy, List.filter_filter]
  split
  case isTrue hname =>
    rw [List.filter_eq_nil_iff]
    intro header _ hboth
    rw [Bool.and_eq_true, Bool.not_eq_true'] at hboth
    rw [hsame header hboth.1, hname] at hboth
    cases hboth.2
  case isFalse hname =>
    apply List.filter_congr
    intro header _
    cases hnamed : named name header with
    | false => rfl
    | true => simp [hsame header hnamed, hname]

/-- Of each name there is its last header, as it is spelled there. -/
theorem filter_named_lastOfEach (headers : List Header) (name : String) :
    (lastOfEach headers).filter (named name) = (headers.filter (named name)).getLast?.toList := by
  induction headers with
  | nil => rfl
  | cons header later ih =>
      cases hnamed : named name header with
      | false =>
          rw [List.filter_cons_of_neg (by simp [hnamed]), ← ih, lastOfEach]
          split
          · rfl
          · rw [List.filter_cons_of_neg (by simp [hnamed])]
      | true =>
          have hsame := (named_eq_true_iff _ _).mp hnamed
          rw [List.filter_cons_of_pos hnamed, lastOfEach, has_congr later hsame]
          split
          case isTrue hlater =>
            have hsome : later.filter (named name) ≠ [] := by
              rw [ne_eq, ← has_eq_false_iff, hlater]
              exact Bool.noConfusion
            rw [ih, List.getLast?_cons_of_ne_nil hsome]
          case isFalse hlater =>
            have hnone := (has_eq_false_iff later name).mp (by simpa using hlater)
            rw [List.filter_cons_of_pos hnamed, ih, hnone]
            rfl

theorem lastOfEach_sublist (headers : List Header) : (lastOfEach headers).Sublist headers := by
  induction headers with
  | nil => exact List.Sublist.slnil
  | cons header later ih =>
      rw [lastOfEach]
      split
      · exact ih.cons header
      · exact ih.cons_cons header

theorem unnamedBy_append (extra first second : List Header) :
    unnamedBy extra (first ++ second) = unnamedBy extra first ++ unnamedBy extra second :=
  List.filter_append first second

theorem unnamedBy_unnamedBy (extra headers : List Header) :
    unnamedBy extra (unnamedBy extra headers) = unnamedBy extra headers := by
  rw [unnamedBy, unnamedBy, List.filter_filter]
  simp only [Bool.and_self]

theorem unnamedBy_lastOfEach (extra : List Header) : unnamedBy extra (lastOfEach extra) = [] := by
  rw [unnamedBy, List.filter_eq_nil_iff]
  intro header hmem
  have hnamed : has extra header.1 = true :=
    (has_eq_true_iff _ _).mpr ⟨header, (lastOfEach_sublist extra).mem hmem, rfl⟩
  simp [hnamed]

end Headers

namespace Request

open Headers Text

theorem unnamedBy_putHeader (header : Header) (later headers : List Header) :
    unnamedBy later (putHeader headers header) =
      unnamedBy (header :: later) headers ++ if has later header.1 then [] else [header] := by
  have hothers : unnamedBy later (headers.filter fun earlier => !sameName earlier.1 header.1) =
      unnamedBy (header :: later) headers := by
    simp only [unnamedBy, List.filter_filter, has_cons, named, Bool.not_or, sameName_comm header.1,
      Bool.and_comm]
  rw [putHeader, unnamedBy_append, hothers]
  cases hlater : has later header.1 <;> simp [unnamedBy, hlater]

/-- Headers put in one after the other: those before that none of them names, and behind them
the last one of each name. -/
theorem foldl_putHeader (extra headers : List Header) :
    extra.foldl putHeader headers = unnamedBy extra headers ++ lastOfEach extra := by
  induction extra generalizing headers with
  | nil => simp [unnamedBy, has, lastOfEach]
  | cons header later ih =>
      rw [List.foldl_cons, ih, unnamedBy_putHeader, List.append_assoc, lastOfEach]
      split <;> rfl

/-- What putting extra headers in amounts to. -/
structure Overrides (base extra headers : List Header) : Prop where
  closed : headers = unnamedBy extra base ++ lastOfEach extra
  /-- A name that an extra header has occurs once, with the last of the extra headers. -/
  once : ∀ header ∈ extra, ∃ last, (extra.filter (named header.1)).getLast? = some last ∧
    headers.filter (named header.1) = [last]
  /-- Of the base headers that no extra header names none is lost, moved or changed. -/
  kept : unnamedBy extra headers = unnamedBy extra base

theorem overrides_foldl_putHeader (base extra : List Header) :
    Overrides base extra (extra.foldl putHeader base) := by
  rw [foldl_putHeader]
  constructor
  case closed => rfl
  case once =>
    intro header hmem
    have hnamed : has extra header.1 = true := (has_eq_true_iff _ _).mpr ⟨header, hmem, rfl⟩
    have hsome : extra.filter (named header.1) ≠ [] := by
      rw [ne_eq, ← has_eq_false_iff, hnamed]
      exact Bool.noConfusion
    refine ⟨_, List.getLast?_eq_some_getLast hsome, ?_⟩
    rw [List.filter_append, filter_named_unnamedBy, if_pos hnamed, filter_named_lastOfEach,
      List.getLast?_eq_some_getLast hsome]
    rfl
  case kept =>
    rw [unnamedBy_append, unnamedBy_unnamedBy, unnamedBy_lastOfEach, List.append_nil]

/-- A request has what is accepted, the languages, the user agent, the profile if there is one
and for a POST the type of the message, in this order, overridden by the carrier's extra headers;
and a POST alone has content. -/
theorem assemble_overrides (t : Transaction) (locale : String) :
    let profile := (t.config.profileUrl.filter (· ≠ "")).map fun url => (t.config.profileHeader, url)
    let messageType :=
      if t.config.charsetInContentType then "application/vnd.wap.mms-message; charset=utf-8"
      else "application/vnd.wap.mms-message"
    let base :=
      [("Accept", "*/*, application/vnd.wap.mms-message, application/vnd.wap.sic"),
        ("Accept-Language", Locale.acceptLanguage locale), ("User-Agent", t.config.userAgent)] ++
      profile.toList ++ if t.method = "POST" then [("Content-Type", messageType)] else []
    let extra := ExtraHeader.parse t.config.macros t.config.extraHeaders
    Overrides base extra (assemble t locale).headers ∧
      (assemble t locale).content = if t.method = "POST" then t.payload else none := by
  intro profile messageType base extra
  have hbase : baseHeaders t locale = base := by
    unfold baseHeaders base profile
    simp only [beq_iff_eq]
    cases t.config.profileUrl with
    | none => rfl
    | some url =>
        by_cases hempty : url = ""
        · rw [hempty]
          rfl
        · have hkept : (some url).filter (· ≠ "") = some url := by simp [Option.filter, hempty]
          simp only [hkept, if_neg hempty]
          rfl
  have hcontent : (assemble t locale).content = if t.method = "POST" then t.payload else none := by
    simp only [assemble, beq_iff_eq]
  refine ⟨?_, hcontent⟩
  rw [← hbase]
  exact overrides_foldl_putHeader (baseHeaders t locale) extra

/-- Case does not count, and the last spelling stays. -/
example :
    [("user-agent", "c"), ("X-Id", "1"), ("USER-AGENT", "d"), ("x-id", "2")].foldl putHeader
        [("User-Agent", "a"), ("Accept", "b")] =
      [("Accept", "b"), ("USER-AGENT", "d"), ("x-id", "2")] := by
  decide +kernel

end Request

end MmsHttp
