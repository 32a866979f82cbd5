import MmsHttp.Proofs.Text.Digit
import MmsHttp.Proofs.Url.Host
import MmsHttp.Proxy.Endpoint

/-!
How the authority of a URL is read. Whatever the text, a host and a port that are found in it stand
there one behind the other, the host in brackets if there are any behind the user information.
-/

namespace MmsHttp.Endpoint

open Fault Text Url

/-- A character that counts in a URL. -/
def counts (c : Char) : Bool :=
  !(c == '\t' || c == '\r' || c == '\n')

/-- A character that does not end the authority of a URL. -/
def continues (c : Char) : Bool :=
  !(c == '/' || c == '?' || c == '#')

/-- What is read of a text that stands behind the slashes of a URL. -/
def legible (cs : List Char) : List Char :=
  (cs.filter counts).takeWhile continues

/-- What stands in front of a host: nothing, or something that an at sign ends. -/
def IsUser (user : List Char) : Prop :=
  user = [] ∨ ∃ name, user = name ++ ['@']

/-- The host and the port that an authority holds. -/
inductive Holds : List Char → List Char → List Char → Prop where
  | plain {user host port : List Char} (huser : IsUser user) (hat : '@' ∉ host)
      (hbracket : '[' ∉ host) (hcolon : ':' ∉ host) :
      Holds (user ++ host ++ ':' :: port) host port
  | bracketed {user before host behind port : List Char} (huser : IsUser user) (hat : '@' ∉ host)
      (hbracket : ']' ∉ host) (hcolon : ':' ∉ behind) :
      Holds (user ++ before ++ '[' :: host ++ ']' :: behind ++ ':' :: port) host port

theorem legible_append {front : List Char} (hcounts : ∀ c ∈ front, counts c = true)
    (hcontinues : ∀ c ∈ front, continues c = true) (rest : List Char) :
    legible (front ++ rest) = front ++ legible rest := by
  rw [legible, List.filter_append, List.filter_eq_self.mpr hcounts,
    List.takeWhile_append_of_pos hcontinues]
  rfl

/-- If as much is read as a text has characters at its front, all of its front is read. -/
theorem legible_append_of_length_le {front rest : List Char}
    (h : front.length ≤ (legible (front ++ rest)).length) :
    legible (front ++ rest) = front.filter counts ++ legible rest ∧
      ∀ c ∈ front.filter counts, continues c = true := by
  unfold legible at h ⊢
  rw [List.filter_append, List.takeWhile_append] at h ⊢
  split at h
  case isTrue hall =>
    refine ⟨if_pos hall, List.takeWhile_eq_self_iff.mp ?_⟩
    exact (List.takeWhile_sublist _).eq_of_length hall
  case isFalse hpart =>
    have hread := (List.takeWhile_sublist (p := continues) (l := front.filter counts)).length_le
    have hkept := List.length_filter_le counts front
    omega

theorem legible_of_digit {c : Char} (h : isAsciiDigit c = true) :
    counts c = true ∧ continues c = true :=
  forall_ascii (P := fun c => isAsciiDigit c = true → counts c = true ∧ continues c = true)
    (by decide +kernel) (toNat_lt_of_isAsciiDigit h) h

theorem legible_port {digits : List Char} (hdigits : ∀ c ∈ digits, isAsciiDigit c = true) :
    legible (':' :: digits) = ':' :: digits := by
  have hread := @legible_append (':' :: digits)
    (List.forall_mem_cons.mpr ⟨by decide, fun c hc => (legible_of_digit (hdigits c hc)).1⟩)
    (List.forall_mem_cons.mpr ⟨by decide, fun c hc => (legible_of_digit (hdigits c hc)).2⟩) []
  simpa [legible] using hread

theorem following_of_mem {mark : Char} {cs : List Char} (h : mark ∈ cs) :
    ∃ before, mark ∉ before ∧ cs = before ++ mark :: following mark cs := by
  unfold following
  rcases hcut : cut (· == mark) cs with ⟨before, _ | after⟩
  · exact absurd ((cut_eq_none hcut).2 mark h) (by simp)
  · obtain ⟨c, hc, hbefore, hcs⟩ := cut_eq_some hcut
    obtain rfl : c = mark := by simpa using hc
    exact ⟨before, forall_beq_eq_false_iff.mp hbefore, hcs⟩

theorem mem_of_following_ne_nil {mark : Char} {cs : List Char} (h : following mark cs ≠ []) :
    mark ∈ cs := by
  by_contra hnone
  apply h
  rw [following, cut_of_forall (forall_beq_eq_false_iff.mpr hnone)]
  rfl

theorem following_append_cons {mark : Char} {before after : List Char} (h : mark ∉ before) :
    following mark (before ++ mark :: after) = after := by
  rw [following, cut_append_cons (forall_beq_eq_false_iff.mpr h) (by simp)]
  rfl

/-- A port is found only behind a host, and the host is what stands in front of it. -/
theorem holds_of_hostAndPort {authority host port : List Char}
    (h : hostAndPort authority = (host, port)) (hport : port ≠ []) : Holds authority host port := by
  obtain ⟨user, htext, hat, huser⟩ := cutLast_eq (· == '@') authority
  rcases hlast : cutLast (· == '@') authority with ⟨information, place⟩
  simp only [hostAndPort, hlast] at h htext hat
  have huser : IsUser user := by
    rcases huser with rfl | ⟨name, c, rfl, hc⟩
    · exact Or.inl rfl
    · exact Or.inr ⟨name, by simpa using hc⟩
  have hat : '@' ∉ place := forall_beq_eq_false_iff.mp hat
  rw [htext]
  split at h
  case isTrue hopen =>
    obtain ⟨before, -, hplace⟩ := following_of_mem (List.contains_iff_mem.mp hopen)
    generalize following '[' place = inside at h hplace
    rcases hcut : cut (· == ']') inside with ⟨inner, _ | rest⟩
    · rw [hcut] at h
      exact absurd (Prod.mk.inj h).2.symm hport
    · rw [hcut] at h
      obtain ⟨rfl, rfl⟩ := Prod.mk.inj h
      obtain ⟨c, hc, hinner, rfl⟩ := cut_eq_some hcut
      obtain rfl : c = ']' := by simpa using hc
      obtain ⟨behind, hbehind, hrest⟩ := following_of_mem (mem_of_following_ne_nil hport)
      have hclosing : ']' ∉ inner := forall_beq_eq_false_iff.mp hinner
      have hinnerAt : '@' ∉ inner := fun hmem => hat (by simp [hplace, hmem])
      have hwhole : user ++ place =
          user ++ before ++ '[' :: inner ++ ']' :: behind ++ ':' :: following ':' rest := by
        simp only [hplace, List.append_assoc, List.cons_append]
        exact congrArg (fun tail => user ++ (before ++ '[' :: (inner ++ ']' :: tail))) hrest
      rw [hwhole]
      exact .bracketed huser hinnerAt hclosing hbehind
  case isFalse hclosed =>
    have hbracket : '[' ∉ place := fun hmem => hclosed (List.contains_iff_mem.mpr hmem)
    rcases hcut : cut (· == ':') place with ⟨inner, _ | rest⟩
    · rw [hcut] at h
      exact absurd (Prod.mk.inj h).2.symm hport
    · rw [hcut] at h
      obtain ⟨rfl, rfl⟩ := Prod.mk.inj h
      obtain ⟨c, hc, hinner, rfl⟩ := cut_eq_some hcut
      obtain rfl : c = ':' := by simpa using hc
      simp only [List.mem_append, List.mem_cons, not_or] at hat hbracket
      have hcolon : ':' ∉ inner := forall_beq_eq_false_iff.mp hinner
      rw [← List.append_assoc]
      exact .plain huser hat.1 hbracket.1 hcolon

theorem Holds.length_le {authority host port : List Char} (h : Holds authority host port) :
    host.length + 1 + port.length ≤ authority.length := by
  cases h <;> simp <;> omega

section

variable {host found port digits : List Char}

/-- A host without brackets around it is found whole only if it is all there is. -/
theorem Holds.of_open (h : Holds (host ++ ':' :: digits) found port) (hport : ':' ∉ port)
    (hdigits : ':' ∉ digits) (hlength : host.length ≤ found.length) :
    found = host ∧ '@' ∉ host ∧ '[' ∉ host := by
  generalize hwhole : host ++ ':' :: digits = authority at h
  cases h with
  | @plain user _ _ huser hat hbracket hcolon =>
      obtain ⟨rfl, -⟩ := append_cons_inj_of_last hdigits hport hwhole
      rw [List.length_append] at hlength
      obtain rfl : user = [] := List.eq_nil_of_length_eq_zero (by omega)
      exact ⟨rfl, hat, hbracket⟩
  | @bracketed user before _ behind _ huser hat hbracket hbehind =>
      obtain ⟨rfl, -⟩ := append_cons_inj_of_last hdigits hport hwhole
      simp only [List.length_append, List.length_cons] at hlength
      omega

/-- A host with brackets around it is found whole only in between them. -/
theorem Holds.of_closed (h : Holds ('[' :: host ++ [']'] ++ ':' :: digits) found port)
    (hport : ':' ∉ port) (hdigits : ':' ∉ digits) (hcolon : ':' ∈ host)
    (hlength : host.length ≤ found.length) : found = host ∧ '@' ∉ host ∧ ']' ∉ host := by
  generalize hwhole : '[' :: host ++ [']'] ++ ':' :: digits = authority at h
  cases h with
  | @plain user _ _ huser hat hbracket hfound =>
      obtain ⟨hplace, -⟩ := append_cons_inj_of_last hdigits hport hwhole
      have hall := congrArg List.length hplace
      simp only [List.length_append, List.length_cons, List.length_nil] at hall
      have hin : ':' ∈ user := by
        have hmem : ':' ∈ user ++ found := hplace ▸ by simp [hcolon]
        exact (List.mem_append.mp hmem).resolve_right hfound
      -- There is room for the first bracket and an at sign in front of the host, and for no more.
      rcases huser with rfl | ⟨_ | ⟨c, _ | ⟨d, name⟩⟩, rfl⟩
      · cases hin
      · simp at hin
      · obtain ⟨rfl, -⟩ : '[' = c ∧ _ := by simpa using hplace
        simp at hin
      · simp only [List.length_append, List.length_cons] at hall
        omega
  | @bracketed user before _ behind _ huser hat hbracket hbehind =>
      obtain ⟨hplace, -⟩ := append_cons_inj_of_last hdigits hport hwhole
      have hall := congrArg List.length hplace
      simp only [List.length_append, List.length_cons, List.length_nil] at hall
      obtain rfl : user = [] := List.eq_nil_of_length_eq_zero (by omega)
      obtain rfl : before = [] := List.eq_nil_of_length_eq_zero (by omega)
      obtain rfl : behind = [] := List.eq_nil_of_length_eq_zero (by omega)
      obtain rfl : host = found := by simpa using hplace
      exact ⟨rfl, hat, hbracket⟩

end

theorem hostAndPort_of_unbracketed {host port : List Char} (hat : '@' ∉ host ++ ':' :: port)
    (hopening : '[' ∉ host ++ ':' :: port) (hcolon : ':' ∉ host) :
    hostAndPort (host ++ ':' :: port) = (host, port) := by
  have hlast : cutLast (· == '@') (host ++ ':' :: port) = (none, host ++ ':' :: port) :=
    cutLast_of_forall (forall_beq_eq_false_iff.mpr hat)
  have hcut : cut (· == ':') (host ++ ':' :: port) = (host, some port) :=
    cut_append_cons (forall_beq_eq_false_iff.mpr hcolon) (by simp)
  have hnone : (host ++ ':' :: port).contains '[' = false := by
    rw [← Bool.not_eq_true, List.contains_iff_mem]
    exact hopening
  simp only [hostAndPort, hlast, hnone, hcut, Bool.false_eq_true, if_false, Option.getD_some]

theorem hostAndPort_of_bracketed {host port : List Char}
    (hat : '@' ∉ '[' :: host ++ ']' :: ':' :: port) (hclosing : ']' ∉ host) :
    hostAndPort ('[' :: host ++ ']' :: ':' :: port) = (host, port) := by
  have hlast : cutLast (· == '@') ('[' :: host ++ ']' :: ':' :: port) =
      (none, '[' :: host ++ ']' :: ':' :: port) :=
    cutLast_of_forall (forall_beq_eq_false_iff.mpr hat)
  have hopen : ('[' :: host ++ ']' :: ':' :: port).contains '[' = true := by simp
  have hinside : following '[' ('[' :: host ++ ']' :: ':' :: port) = host ++ ']' :: ':' :: port :=
    @following_append_cons '[' [] _ List.not_mem_nil
  have hcut : cut (· == ']') (host ++ ']' :: ':' :: port) = (host, some (':' :: port)) :=
    cut_append_cons (forall_beq_eq_false_iff.mpr hclosing) (by simp)
  have hport : following ':' (':' :: port) = port :=
    @following_append_cons ':' [] port List.not_mem_nil
  simp only [hostAndPort, hlast, hopen, hinside, hcut, hport, if_true, Option.getD_some]

theorem readPort_eq_some {port : List Char} {n : Nat} (h : readPort port = .ok (some n)) :
    port ≠ [] ∧ ∀ c ∈ port, isAsciiDigit c = true := by
  unfold readPort at h
  split at h
  case isTrue => cases h
  case isFalse hsome =>
    split at h
    case isTrue => cases h
    case isFalse hdigits =>
      exact ⟨by simpa using hsome, by simpa using hdigits⟩

theorem readPort_toDigits {n : Nat} (h : n ≤ 65535) :
    readPort (Nat.toDigits 10 n) = .ok (some n) := by
  have hsome : (Nat.toDigits 10 n).isEmpty = false := by
    simp [Nat.toDigits_ne_nil]
  have hdigits : (Nat.toDigits 10 n).all isAsciiDigit = true := by
    rw [List.all_eq_true]
    exact fun c hc => isAsciiDigit_of_mem_toDigits hc
  simp [readPort, hsome, hdigits, decimalValue_toDigits, h]

theorem length_lowerHost (host : List Char) : (lowerHost host).length = host.length := by
  have hlength := congrArg List.length
    (List.takeWhile_append_dropWhile (p := (· != '%')) (l := host))
  simp only [List.length_append] at hlength
  simp only [lowerHost, List.length_append, List.length_map, List.length_drop]
  omega

theorem lowerAscii_lowerAscii (c : Char) : lowerAscii (lowerAscii c) = lowerAscii c := by
  by_cases hc : c.toNat < 128
  · exact forall_ascii (P := fun c => lowerAscii (lowerAscii c) = lowerAscii c)
      (by decide +kernel) hc
  · have hsame : lowerAscii c = c := by
      rw [lowerAscii, if_neg]
      rintro ⟨-, hle⟩
      have : c.toNat ≤ 90 := hle
      omega
    rw [hsame, hsame]

theorem map_lowerAscii_lowerHost (host : List Char) :
    (lowerHost host).map lowerAscii = host.map lowerAscii := by
  have htake := List.takeWhile_prefix (p := (· != '%')) (l := host)
  have hsplit : host.takeWhile (· != '%') ++ host.drop (host.takeWhile (· != '%')).length = host :=
    List.prefix_iff_eq_append.mp htake
  simp only [lowerHost, List.map_append, List.map_map]
  have hidem : lowerAscii ∘ lowerAscii = lowerAscii := funext lowerAscii_lowerAscii
  rw [hidem, ← List.map_append, hsplit]

/-- What may stand in brackets: an address of the future, which begins with a small v, or one of
today. -/
def IsAddress (host : List Char) : Prop :=
  if host.head? = some 'v' then isFutureAddress host = true else Url.isIpv6 host = true

instance : DecidablePred IsAddress :=
  fun host => inferInstanceAs (Decidable (if host.head? = some 'v' then _ else _))

theorem bracketFault?_of_bracketed {host rest : List Char} (hclosing : ']' ∉ host)
    (hcolon : ':' ∈ host) :
    bracketFault? ('[' :: host ++ ']' :: rest) = none ↔ IsAddress host := by
  have hinside : following '[' ('[' :: host ++ ']' :: rest) = host ++ ']' :: rest :=
    @following_append_cons '[' [] _ List.not_mem_nil
  have hhost : (host ++ ']' :: rest).takeWhile (· != ']') = host := by
    rw [List.takeWhile_append_of_pos, List.takeWhile_cons_of_neg (by simp), List.append_nil]
    intro c hc
    simpa using ne_of_mem_of_not_mem hc hclosing
  have hquad : Url.isIpv4 host = false := by
    by_contra h
    exact Url.colon_not_mem_of_isIpv4 (by simpa using h) hcolon
  simp only [bracketFault?, hinside, hhost, hquad]
  unfold IsAddress
  by_cases hfuture : host.head? = some 'v' <;> simp [hfuture]

theorem bracketFault?_of_unbracketed {authority : List Char} (hopening : '[' ∉ authority) :
    bracketFault? authority = none ↔ ']' ∉ authority := by
  by_cases hclosing : ']' ∈ authority <;> simp [bracketFault?, hopening, hclosing]

def plainUrl (rest : List Char) : String :=
  String.ofList (['h', 't', 't', 'p', ':', '/', '/'] ++ rest)

/-- Of a plain URL only the authority is read. -/
theorem ofUrl_plainUrl_eq_ok_iff {rest : List Char} (hascii : ∀ c ∈ rest, c.toNat < 128)
    {endpoint : Endpoint} :
    ofUrl (plainUrl rest) = .ok endpoint ↔
      bracketFault? (legible rest) = none ∧
        ∃ port, readPort (hostAndPort (legible rest)).2 = .ok port ∧ endpoint =
          ⟨"http", String.ofList (lowerHost (hostAndPort (legible rest)).1), port⟩ := by
  have hforeign : (plainUrl rest).toList.any (fun c => 128 ≤ c.toNat) = false := by
    simpa [plainUrl] using hascii
  have hcounted : ((plainUrl rest).toList.dropWhile fun c => c.toNat ≤ 32).filter counts =
      ['h', 't', 't', 'p', ':', '/', '/'] ++ rest.filter counts := by
    rw [plainUrl, String.toList_ofList, List.cons_append, List.dropWhile_cons_of_neg (by decide)]
    simp [counts]
  have hscheme : splitScheme (['h', 't', 't', 'p', ':', '/', '/'] ++ rest.filter counts) =
      ("http".toList, ['/', '/'] ++ rest.filter counts) := by
    rfl
  have hauthority : authorityOf (['/', '/'] ++ rest.filter counts) =
      legible rest := rfl
  unfold ofUrl
  unfold counts at hcounted hscheme hauthority
  simp only [hforeign, hcounted, hscheme, hauthority, Bool.false_eq_true, if_false]
  generalize legible rest = authority
  cases bracketFault? authority with
  | some fault => exact iff_of_false nofun nofun
  | none =>
      have hname : String.ofList "http".toList = "http" := String.ofList_toList
      simp only [bind_eq_ok_iff, hname, true_and]
      constructor
      · rintro ⟨port, hport, h⟩
        exact ⟨port, hport, (Except.ok.inj h).symm⟩
      · rintro ⟨port, hport, rfl⟩
        exact ⟨port, hport, rfl⟩

end MmsHttp.Endpoint
