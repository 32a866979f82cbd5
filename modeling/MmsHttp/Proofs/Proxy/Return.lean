import MmsHttp.Proofs.Executor.Course
import MmsHttp.Proofs.Proxy.Authority
import MmsHttp.Proofs.Registry

/-!
Which proxies a pool leads to as they were given. The address of a proxy is written into a URL as it
is, with brackets around a host that has colons, and a pool reads it back from there. A call only
refuses a host that is blank, so the host has to be one that a URL gives back.
-/

namespace MmsHttp

namespace Endpoint

open Text Url

/-- A host as it stands in the URL of a proxy. -/
def enclosed (host : List Char) : List Char :=
  if ':' ∈ host then '[' :: host ++ [']'] else host

/-- A host that a URL gives back: nothing in it is passed over, ends the authority or ends the user
information, and it has brackets nowhere and colons only as an address. -/
structure Fits (host : List Char) : Prop where
  counting : ∀ c ∈ host, counts c = true
  within : ∀ c ∈ host, continues c = true
  anonymous : '@' ∉ host
  unclosed : ']' ∉ host
  unopened : ':' ∉ host → '[' ∉ host
  address : ':' ∈ host → IsAddress host

/-- An endpoint that is where a proxy is said to be. -/
structure Returns (endpoint : Endpoint) (proxy : Proxy) : Prop where
  scheme : endpoint.scheme = "http"
  host : endpoint.host.toList.map lowerAscii = proxy.host.toList.map lowerAscii
  port : endpoint.port.map Int.ofNat = some proxy.port
  dialled : (endpoint.dialledPort : Int) = proxy.port

theorem url_eq_plainUrl {proxy : Proxy} {n : Nat} (hport : proxy.port = n) :
    proxy.url = plainUrl (enclosed proxy.host.toList ++ ':' :: Nat.toDigits 10 n) := by
  obtain ⟨host, port⟩ := proxy
  obtain rfl : port = n := hport
  have hdigits : (toString (n : Int)).toList = Nat.toDigits 10 n := Nat.toList_repr
  apply String.toList_inj.mp
  simp only [Proxy.url, plainUrl, enclosed, String.toList_append, String.toList_ofList, hdigits,
    List.contains_iff_mem]
  split <;> simp [toString]

theorem length_enclosed_le (host : List Char) : (enclosed host).length ≤ host.length + 2 := by
  unfold enclosed
  split <;> simp

theorem forall_mem_enclosed {P : Char → Prop} {host : List Char} (hopening : P '[')
    (hclosing : P ']') (hhost : ∀ c ∈ host, P c) : ∀ c ∈ enclosed host, P c := by
  unfold enclosed
  split
  · simpa [or_imp, forall_and, hopening, hclosing] using hhost
  · exact hhost

theorem filter_counts_enclosed (host : List Char) :
    (enclosed host).filter counts = enclosed (host.filter counts) := by
  have hcolon : ':' ∈ host.filter counts ↔ ':' ∈ host := by simp [counts]
  unfold enclosed
  simp only [hcolon]
  split <;> simp [counts]

variable {host digits : List Char}

theorem fits_of_holds {found port : List Char} (hlength : found.length = host.length)
    (hsome : port ≠ []) (hport : ':' ∉ port) (hdigits : ∀ c ∈ digits, isAsciiDigit c = true)
    (hholds : Holds (legible (enclosed host ++ ':' :: digits)) found port)
    (hclear : bracketFault? (legible (enclosed host ++ ':' :: digits)) = none) : Fits host := by
  have hroom : (enclosed host).length ≤ (legible (enclosed host ++ ':' :: digits)).length := by
    have henclosed := length_enclosed_le host
    have hheld := hholds.length_le
    have hone := List.length_pos_iff.mpr hsome
    omega
  obtain ⟨hall, hcontinues⟩ := legible_append_of_length_le hroom
  rw [hall, legible_port hdigits, filter_counts_enclosed] at hholds hclear
  rw [filter_counts_enclosed] at hcontinues
  have hnumber : ':' ∉ digits := not_mem_of_forall hdigits (by decide)
  have hbracket : '[' ∉ digits := not_mem_of_forall hdigits (by decide)
  have hkept : (host.filter counts).length ≤ found.length :=
    hlength ▸ List.length_filter_le counts host
  have hwhole (h : found = host.filter counts) : host.filter counts = host :=
    List.filter_sublist.eq_of_length (h ▸ hlength)
  by_cases hcolon : ':' ∈ host.filter counts
  · rw [enclosed, if_pos hcolon] at hholds hclear hcontinues
    obtain ⟨hfound, hat, hclosing⟩ := hholds.of_closed hport hnumber hcolon hkept
    rw [hwhole hfound] at hcolon hat hclosing hclear hcontinues
    rw [List.append_assoc, List.singleton_append,
      bracketFault?_of_bracketed hclosing hcolon] at hclear
    exact { counting := List.filter_eq_self.mp (hwhole hfound)
            within := fun c hc => hcontinues c (by simp [hc])
            anonymous := hat
            unclosed := hclosing
            unopened := fun h => absurd hcolon h
            address := fun _ => hclear }
  · rw [enclosed, if_neg hcolon] at hholds hclear hcontinues
    obtain ⟨hfound, hat, hopening⟩ := hholds.of_open hport hnumber hkept
    rw [hwhole hfound] at hcolon hat hopening hclear hcontinues
    rw [bracketFault?_of_unbracketed (by simp [hopening, hbracket])] at hclear
    exact { counting := List.filter_eq_self.mp (hwhole hfound)
            within := hcontinues
            anonymous := hat
            unclosed := fun h => hclear (List.mem_append_left _ h)
            unopened := fun _ => hopening
            address := fun h => absurd h hcolon }

/-- What a URL gives back of a host that fits. -/
theorem Fits.hostAndPort_legible (hfits : Fits host)
    (hdigits : ∀ c ∈ digits, isAsciiDigit c = true) :
    bracketFault? (legible (enclosed host ++ ':' :: digits)) = none ∧
      hostAndPort (legible (enclosed host ++ ':' :: digits)) = (host, digits) := by
  have hread : legible (enclosed host ++ ':' :: digits) = enclosed host ++ ':' :: digits := by
    rw [legible_append (forall_mem_enclosed (by decide) (by decide) hfits.counting)
      (forall_mem_enclosed (by decide) (by decide) hfits.within), legible_port hdigits]
  have hat := hfits.anonymous
  have hclosing := hfits.unclosed
  have hnumber : '@' ∉ digits ∧ '[' ∉ digits ∧ ']' ∉ digits :=
    ⟨not_mem_of_forall hdigits (by decide), not_mem_of_forall hdigits (by decide),
      not_mem_of_forall hdigits (by decide)⟩
  rw [hread]
  by_cases hcolon : ':' ∈ host
  · rw [enclosed, if_pos hcolon, List.append_assoc, List.singleton_append]
    refine ⟨(bracketFault?_of_bracketed hclosing hcolon).mpr (hfits.address hcolon), ?_⟩
    exact hostAndPort_of_bracketed (by simp [hat, hnumber]) hclosing
  · have hopening := hfits.unopened hcolon
    rw [enclosed, if_neg hcolon]
    refine ⟨(bracketFault?_of_unbracketed (by simp [hopening, hnumber])).mpr ?_, ?_⟩
    · simp [hclosing, hnumber]
    · exact hostAndPort_of_unbracketed (by simp [hat, hnumber]) (by simp [hopening, hnumber]) hcolon

/-- The URL of a proxy gives back a host in ASCII if the host fits, and only then. -/
theorem returns_ofUrl_iff {proxy : Proxy} (hascii : ∀ c ∈ proxy.host.toList, c.toNat < 128)
    (hlow : 0 < proxy.port) (hhigh : proxy.port ≤ 65535) :
    (∃ endpoint, ofUrl proxy.url = .ok endpoint ∧ endpoint.Returns proxy) ↔
      Fits proxy.host.toList := by
  obtain ⟨n, hn⟩ := Int.eq_ofNat_of_zero_le hlow.le
  have hdigits : ∀ c ∈ Nat.toDigits 10 n, isAsciiDigit c = true :=
    fun c hc => isAsciiDigit_of_mem_toDigits hc
  have hrest : ∀ c ∈ enclosed proxy.host.toList ++ ':' :: Nat.toDigits 10 n, c.toNat < 128 := by
    rw [List.forall_mem_append, List.forall_mem_cons]
    refine ⟨forall_mem_enclosed (by decide) (by decide) hascii, by decide, ?_⟩
    exact fun c hc => toNat_lt_of_isAsciiDigit (hdigits c hc)
  rw [url_eq_plainUrl hn]
  constructor
  · rintro ⟨endpoint, hread, hreturns⟩
    obtain ⟨hclear, port, hport, rfl⟩ := (ofUrl_plainUrl_eq_ok_iff hrest).mp hread
    rcases hplace : hostAndPort (legible (enclosed proxy.host.toList ++ ':' :: Nat.toDigits 10 n))
      with ⟨found, number⟩
    rw [hplace] at hport hreturns
    have hlength : found.length = proxy.host.toList.length := by
      have hsame := congrArg List.length hreturns.host
      simpa only [String.toList_ofList, List.length_map, length_lowerHost] using hsame
    cases port with
    | none => cases hreturns.port
    | some given =>
        obtain ⟨hsome, hnumber⟩ := readPort_eq_some hport
        have hcolon : ':' ∉ number := not_mem_of_forall hnumber (by decide)
        exact fits_of_holds hlength hsome hcolon hdigits (holds_of_hostAndPort hplace hsome) hclear
  · intro hfits
    obtain ⟨hclear, hplace⟩ := hfits.hostAndPort_legible hdigits
    refine ⟨⟨"http", String.ofList (lowerHost proxy.host.toList), some n⟩, ?_, ?_⟩
    · refine (ofUrl_plainUrl_eq_ok_iff hrest).mpr ⟨hclear, some n, ?_, by rw [hplace]⟩
      rw [hplace]
      exact readPort_toDigits (by omega)
    · have hpositive : (n == 0) = false := by simpa using (by omega : n ≠ 0)
      exact { scheme := rfl
              host := by rw [String.toList_ofList, map_lowerAscii_lowerHost]
              port := by rw [hn]; rfl
              dialled := by simp [dialledPort, hpositive, hn] }

end Endpoint

namespace Registry

variable {registry : Registry} {route : Route} {pool : Pool}

/-- A route that has no pool is given one if one can be made. -/
theorem acquires_new_iff (hnew : registry.find? route = none) :
    (∃ events after, registry.acquire route = (.ok (pool, events), after)) ↔
      registry.newPool route = .ok pool := by
  simp only [acquire, hnew]
  cases registry.newPool route <;> simp

theorem newPool_proxied_eq_ok_iff {proxy : Proxy} (hproxy : route.proxy = some proxy) :
    registry.newPool route = .ok pool ↔
      ∃ endpoint, proxy.endpoint = .ok endpoint ∧
        pool = { number := registry.next, proxy := some endpoint, limits := registry.limits } := by
  rw [newPool, hproxy, Option.mapM_some]
  cases proxy.endpoint with
  | error fault => exact iff_of_false nofun nofun
  | ok endpoint =>
      constructor
      · intro h
        exact ⟨endpoint, rfl, (Except.ok.inj h).symm⟩
      · rintro ⟨_, hfound, rfl⟩
        rw [← Except.ok.inj hfound]
        rfl

/-- The pool that is made for a checked proxy leads to it if its host fits, and only then. -/
theorem returns_iff_fits {proxy : Proxy} {resolver : String} {tls : Option String}
    (hascii : ∀ c ∈ proxy.host.toList, c.toNat < 128)
    (hchecked : Executor.proxyFailure? proxy = none)
    (hnew : registry.find? ⟨some proxy, resolver, tls⟩ = none) :
    (∃ pool events after endpoint,
        registry.acquire ⟨some proxy, resolver, tls⟩ = (.ok (pool, events), after) ∧
          pool.proxy = some endpoint ∧ endpoint.Returns proxy) ↔
      Endpoint.Fits proxy.host.toList := by
  obtain ⟨hlow, hhigh, -⟩ := (Executor.proxyFailure?_eq_none_iff proxy).mp hchecked
  have hread : proxy.endpoint = Endpoint.ofUrl proxy.url := by
    unfold Proxy.endpoint
    simp only [Executor.writable_of_le_maxPort hlow hhigh]
  rw [← Endpoint.returns_ofUrl_iff hascii hlow hhigh, ← hread]
  constructor
  · rintro ⟨pool, events, after, endpoint, hacquire, hproxy, hreturns⟩
    have hmade := (acquires_new_iff hnew).mp ⟨events, after, hacquire⟩
    obtain ⟨found, hfound, rfl⟩ := (newPool_proxied_eq_ok_iff rfl).mp hmade
    obtain rfl := Option.some.inj hproxy
    exact ⟨found, hfound, hreturns⟩
  · rintro ⟨endpoint, hfound, hreturns⟩
    obtain ⟨events, after, hacquire⟩ := (acquires_new_iff hnew).mpr
      ((newPool_proxied_eq_ok_iff rfl).mpr ⟨endpoint, hfound, rfl⟩)
    exact ⟨_, events, after, endpoint, hacquire, rfl, hreturns⟩

/-- An address with a zone fits, and letter case does not count. -/
theorem returns_address :
    let proxy : Proxy := ⟨"FE80::1%Eth0", 3128⟩
    let registry : Registry := { limits := .usual }
    (∀ c ∈ proxy.host.toList, c.toNat < 128) ∧ Executor.proxyFailure? proxy = none ∧
      registry.find? ⟨some proxy, "system", none⟩ = none ∧
      ∃ pool events after endpoint,
        registry.acquire ⟨some proxy, "system", none⟩ = (.ok (pool, events), after) ∧
          pool.proxy = some endpoint ∧ endpoint.Returns proxy := by
  intro proxy registry
  have hascii : ∀ c ∈ proxy.host.toList, c.toNat < 128 :=
    List.forall_iff_forall_mem.mp (by decide)
  have hchecked : Executor.proxyFailure? proxy = none := by decide +kernel
  have hfits : Endpoint.Fits proxy.host.toList :=
    { counting := List.all_eq_true.mp (by decide)
      within := List.all_eq_true.mp (by decide)
      anonymous := by decide
      unclosed := by decide
      unopened := by decide
      address := by decide +kernel }
  exact ⟨hascii, hchecked, rfl, (returns_iff_fits hascii hchecked rfl).mpr hfits⟩

/-- A host with a slash in it passes the check, and its pool leads to the usual port of the host
that stands in front of the slash. -/
theorem strays_before_slash :
    let proxy : Proxy := ⟨"proxy.example/", 3128⟩
    let registry : Registry := { limits := .usual }
    (∀ c ∈ proxy.host.toList, c.toNat < 128) ∧ Executor.proxyFailure? proxy = none ∧
      ∃ pool events after endpoint,
        registry.acquire ⟨some proxy, "system", none⟩ = (.ok (pool, events), after) ∧
          pool.proxy = some endpoint ∧ endpoint = ⟨"http", "proxy.example", none⟩ ∧
          endpoint.dialledPort = 80 ∧ ¬ endpoint.Returns proxy := by
  intro proxy registry
  have hfound : proxy.endpoint = .ok ⟨"http", "proxy.example", none⟩ := by decide +kernel
  have hnew : registry.find? ⟨some proxy, "system", none⟩ = none := rfl
  obtain ⟨events, after, hacquire⟩ := (acquires_new_iff hnew).mpr
    ((newPool_proxied_eq_ok_iff rfl).mpr ⟨_, hfound, rfl⟩)
  refine ⟨List.forall_iff_forall_mem.mp (by decide), by decide +kernel, _, events, after, _,
    hacquire, rfl, rfl, rfl, ?_⟩
  intro hreturns
  cases hreturns.port

end Registry

end MmsHttp
