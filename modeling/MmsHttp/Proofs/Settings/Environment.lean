import Mathlib.Data.List.Basic
import MmsHttp.Settings

namespace MmsHttp

open Text

/-- The variables of a name, whatever its case. -/
def Settings.spelled (environment : List (String × String)) (name : String) :
    List (String × String) :=
  environment.filter fun entry => sameName entry.1 name

namespace EnvFile

/-- A text that names a variable after a dollar sign and an opening brace. -/
def Names (cs name : List Char) : Prop :=
  ∃ before rest, cs = before ++ '$' :: '\x7b' :: (name ++ rest) ∧
    (rest.head? = some '\x7d' ∨ rest.head? = some ':')

/-- A file one of whose values names a variable. -/
def RefersTo (text name : String) : Prop :=
  ∃ entry ∈ entries (unifyLineEnds text.toList), ∃ value, entry.2 = some value ∧
    Names value name.toList

theorem Names.cons {cs name : List Char} (hnames : Names cs name) (c : Char) :
    Names (c :: cs) name := by
  obtain ⟨before, rest, rfl, hends⟩ := hnames
  exact ⟨c :: before, rest, rfl, hends⟩

/-- A reference that can be read names its variable. -/
theorem names_of_readReference {cs name fallback after : List Char}
    (h : readReference cs = some (name, fallback, after)) : Names ('$' :: '\x7b' :: cs) name := by
  unfold readReference at h
  dsimp only at h
  have hsplit := List.prefix_iff_eq_append.mp
    (List.takeWhile_prefix (l := cs) fun c => !(c == '\x7d' || c == ':'))
  generalize cs.takeWhile (fun c => !(c == '\x7d' || c == ':')) = own at h hsplit
  split at h
  case h_1 hrest =>
    obtain ⟨rfl, -⟩ := Prod.mk.inj (Option.some.inj h)
    exact ⟨[], cs.drop own.length, by rw [hsplit]; rfl, Or.inl (by rw [hrest]; rfl)⟩
  case h_2 hrest =>
    split at h
    case h_1 =>
      obtain ⟨rfl, -⟩ := Prod.mk.inj (Option.some.inj h)
      exact ⟨[], cs.drop own.length, by rw [hsplit]; rfl, Or.inr (by rw [hrest]; rfl)⟩
    case h_2 => cases h
  case h_3 => cases h

theorem expandFrom_congr {value? other? : String → Option String} {cs : List Char}
    (hsame : ∀ name, Names cs name → value? (String.ofList name) = other? (String.ofList name))
    (skip : Nat) : expandFrom value? skip cs = expandFrom other? skip cs := by
  fun_induction expandFrom value? skip cs with
  | case1 => simp only [expandFrom]
  | case2 skip c rest ih =>
      simp only [expandFrom]
      exact ih fun name hname => hsame name (hname.cons c)
  | case3 rest name fallback after hread ih =>
      simp only [expandFrom, hread]
      rw [hsame name (names_of_readReference hread),
        ih fun name hname => hsame name ((hname.cons _).cons _)]
  | case4 rest hread ih =>
      simp only [expandFrom, hread]
      rw [ih fun name hname => hsame name ((hname.cons _).cons _)]
  | case5 c rest hplain ih =>
      rw [expandFrom]
      · rw [ih fun name hname => hsame name (hname.cons c)]
      · exact hplain

theorem read_congr {first second : List (String × String)} {text : String}
    (hsame : ∀ name, RefersTo text name →
      first.find? (·.1 == name) = second.find? (·.1 == name)) :
    read first text = read second text := by
  unfold read
  apply List.foldl_ext
  rintro known ⟨name, value⟩ hentry
  cases value with
  | none => rfl
  | some value =>
      have hvalue : expand (seen? first known) value = expand (seen? second known) value := by
        apply expandFrom_congr
        intro name hname
        have hrefers : RefersTo text (String.ofList name) :=
          ⟨_, hentry, value, rfl, by simpa using hname⟩
        simp only [seen?, hsame _ hrefers]
      simp only [Option.map_some, hvalue]

end EnvFile

namespace Settings

/-- Environments that agree on whatever the settings can depend on. -/
structure Agree (file : Option String) (first second : List (String × String)) : Prop where
  named : ∀ key ∈ keys, ∀ name ∈ [key.envName, key.name],
    spelled first name = spelled second name
  referred : ∀ text ∈ file, ∀ name, EnvFile.RefersTo text name →
    first.find? (·.1 == name) = second.find? (·.1 == name)

theorem textOf?_environment (environment : List (String × String)) (name : String) :
    textOf? (environment.map fun entry => (entry.1, some entry.2)) name =
      (spelled environment name).getLast?.map (·.2) := by
  unfold textOf? spelled
  rw [← List.map_reverse, List.find?_map, ← List.head?_reverse, ← List.filter_reverse,
    List.head?_filter]
  simp only [Function.comp_def]
  cases environment.reverse.find? fun entry => sameName entry.1 name <;> rfl

theorem mapM_congr {f g : Key → Except Fault (Option (String × Json))} {keys : List Key}
    (hsame : ∀ key ∈ keys, f key = g key) : keys.mapM f = keys.mapM g := by
  induction keys with
  | nil => rfl
  | cons key rest ih =>
      rw [List.mapM_cons, List.mapM_cons, hsame key List.mem_cons_self,
        ih fun key hkey => hsame key (List.mem_cons_of_mem _ hkey)]

/-- What variables give for the settings depends on the texts under their names only. -/
theorem ofVariables_congr (source : String) {given other : List EnvFile.Variable}
    (hsame : ∀ key ∈ keys, ∀ name ∈ [key.envName, key.name],
      textOf? given name = textOf? other name) :
    ofVariables source given = ofVariables source other := by
  unfold ofVariables
  rw [mapM_congr]
  intro key hkey
  simp only [found?, hsame key hkey key.envName (by simp), hsame key hkey key.name (by simp)]

/-- Environments that agree on the variables under the names of settings, and on those that the
environment file refers to, give the same settings or the same refusal. -/
theorem read_eq_of_agree (arguments : Values) (file : Option String)
    {first second : List (String × String)} (hagree : Agree file first second) :
    read ⟨arguments, first, file⟩ = read ⟨arguments, second, file⟩ := by
  have henvironment : ofVariables "EnvSettingsSource"
        (Sources.environmentVariables ⟨arguments, first, file⟩) =
      ofVariables "EnvSettingsSource"
        (Sources.environmentVariables ⟨arguments, second, file⟩) := by
    apply ofVariables_congr
    intro key hkey name hname
    simp only [Sources.environmentVariables]
    rw [textOf?_environment, textOf?_environment, hagree.named key hkey name hname]
  have hfile : Sources.fileVariables ⟨arguments, first, file⟩ =
      Sources.fileVariables ⟨arguments, second, file⟩ := by
    cases file with
    | none => rfl
    | some text => exact EnvFile.read_congr (hagree.referred text rfl)
  have hvalues : Sources.values ⟨arguments, first, file⟩ =
      Sources.values ⟨arguments, second, file⟩ := by
    simp only [Sources.values, henvironment, hfile]
  simp only [read, hvalues]
  rfl

/-- Settings do not see a variable that is neither theirs nor named by the environment file. -/
theorem read_eq_without_terminal :
    let file := some "MMS_NAI=$\x7bcarrier\x7d"
    let first := [("TERM", "xterm"), ("mms_user_agent", "Mms/1"), ("carrier", "user@carrier")]
    let second := [("mms_user_agent", "Mms/1"), ("carrier", "user@carrier")]
    Agree file first second ∧ read ⟨[], first, file⟩ = read ⟨[], second, file⟩ := by
  intro file first second
  have hagree : Agree file first second := by
    constructor
    case named => decide +kernel
    case referred =>
      intro text htext name hrefers
      obtain rfl := Option.some.inj htext
      have hname : "TERM" ≠ name := by
        rintro rfl
        obtain ⟨entry, hentry, value, hvalue, before, rest, htext, -⟩ := hrefers
        have hentries : EnvFile.entries (EnvFile.unifyLineEnds
            "MMS_NAI=$\x7bcarrier\x7d".toList) =
            [("MMS_NAI".toList, some "$\x7bcarrier\x7d".toList)] := by decide +kernel
        rw [hentries, List.mem_singleton] at hentry
        obtain rfl := Option.some.inj ((congrArg Prod.snd hentry).symm.trans hvalue)
        have hletter : 'T' ∈ "$\x7bcarrier\x7d".toList := by rw [htext]; simp
        exact absurd hletter (by decide)
      simp [first, second, hname]
  exact ⟨hagree, read_eq_of_agree [] file hagree⟩

/-- A variable that has no name but that of a setting itself counts, and so does one that the
environment file refers to. -/
theorem stray_variables_count :
    let locale (sources : Sources) : Option (Option String) := (read sources).toOption.map (·.locale)
    let file := "MMS_LOCALE=$\x7bREGION\x7d"
    (∀ key ∈ keys, spelled [("LOCALE", "fr_FR")] key.envName = spelled [] key.envName) ∧
      locale ⟨[], [("LOCALE", "fr_FR")], none⟩ = some (some "fr_FR") ∧
      locale ⟨[], [], none⟩ = some none ∧
    (∀ key ∈ keys, spelled [("REGION", "fr_FR")] key.envName = spelled [] key.envName) ∧
      locale ⟨[], [("REGION", "fr_FR")], some file⟩ = some (some "fr_FR") ∧
      locale ⟨[], [], some file⟩ = some (some "") := by
  decide +kernel

end Settings

end MmsHttp
