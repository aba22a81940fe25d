import HourBank.CommandLine.Arguments
import HourBank.Proofs.Feed
import Mathlib.Data.List.Induction

/-! The grammar of the arguments. They spell a file, times and a flag, in any order and each at most
once. Just the arguments that do are read, unless help or the version is asked for. -/

namespace HourBank

/-- What can stand as a file or as a time of its own: nothing that begins with a dash but a dash
alone. -/
def IsValue (t : Text) : Prop := t = ['-'] ∨ t.head? ≠ some '-'

def Setting.option (s : Setting) : Text := "--".toList ++ s.name

def AsksForHelpOrVersion (t : Text) : Prop :=
  t = "--help".toList ∨ t = "--version".toList ∨ "-h".toList <+: t ∨ "-V".toList <+: t

instance : DecidablePred AsksForHelpOrVersion := fun t =>
  inferInstanceAs (Decidable (t = "--help".toList ∨ t = "--version".toList ∨ _ ∨ _))

/-- What the arguments give, one by one. -/
inductive Item
  | file (path : Text)
  | time (setting : Setting) (token : Text)
  | noColor

namespace Item

def path? : Item → Option Text
  | .file path => some path
  | _ => none

def token? (s : Setting) : Item → Option Text
  | .time s' token => if s' = s then some token else none
  | _ => none

def isNoColor : Item → Bool
  | .noColor => true
  | _ => false

inductive Spelled : Item → List Text → Prop
  | file {path : Text} (hpath : IsValue path) : Spelled (.file path) [path]
  | apart {s : Setting} {token : Text} (htoken : IsValue token) :
      Spelled (.time s token) [s.option, token]
  | attached {s : Setting} {token : Text} : Spelled (.time s token) [s.option ++ '=' :: token]
  | noColor : Spelled .noColor ["--no-color".toList]

/-- All arguments after two dashes alone are files. -/
inductive Spell : List Item → List Text → Prop
  | nil : Spell [] []
  | cons {item : Item} {items : List Item} {first rest : List Text} (hfirst : item.Spelled first)
      (hrest : Spell items rest) : Spell (item :: items) (first ++ rest)
  | files {paths : List Text} : Spell (paths.map .file) ("--".toList :: paths)

end Item

namespace Given

/-- Each thing is given at most once, the file by a path that is not empty, the times by tokens
that are read as times. -/
structure Of (items : List Item) (g : Given) : Prop where
  file : items.filterMap Item.path? = g.file.toList
  file_ne : g.file ≠ some []
  workday : (items.filterMap (Item.token? .workday)).map Minutes.parse =
    (g.workday.map Except.ok).toList
  lunch : (items.filterMap (Item.token? .lunch)).map Minutes.parse =
    (g.lunch.map Except.ok).toList
  tolerance : (items.filterMap (Item.token? .tolerance)).map Minutes.parse =
    (g.tolerance.map Except.ok).toList
  noColor : items.countP Item.isNoColor = g.noColor.toNat

def SpelledBy (g : Given) (arguments : List Text) : Prop :=
  ∃ items, Item.Spell items arguments ∧ g.Of items

end Given

namespace Argument

/-- What an argument looks like, by what it is taken for. -/
inductive Form : Text → Argument → Prop
  | value {t : Text} (ht : IsValue t) : Form t (.value t)
  | endOfOptions : Form "--".toList .endOfOptions
  | apart {s : Setting} : Form s.option (.setting s none)
  | attached {s : Setting} {token : Text} :
      Form (s.option ++ '=' :: token) (.setting s (some token))
  | noColor : Form "--no-color".toList .noColor
  | version {t : Text} (ht : AsksForHelpOrVersion t) : Form t .version
  | help {t : Text} (ht : AsksForHelpOrVersion t) : Form t .help
  | unknown {t : Text} : Form t .unknown

theorem form_ofOption (body : Text) : Form ("--".toList ++ body) (ofOption body) := by
  have hbody := List.takeWhile_append_dropWhile (p := (· ≠ '=')) (l := body)
  rw [ofOption]
  split
  case h_1 s hname hrest =>
    have hs : s.name = body.takeWhile (· ≠ '=') := by simpa using List.find?_some hname
    rw [← hbody, hrest, List.append_nil, ← hs]
    exact .apart
  case h_2 s c token hname hrest =>
    have hs : s.name = body.takeWhile (· ≠ '=') := by simpa using List.find?_some hname
    have hc : c = '=' := by
      have hhead := List.head?_dropWhile_not (· ≠ '=') body
      rw [hrest] at hhead
      simpa using hhead
    rw [← hbody, hrest, ← hs, hc, ← List.append_assoc]
    exact .attached
  case h_3 hrest =>
    have hname : body = body.takeWhile (· ≠ '=') := by
      rw [hrest, List.append_nil] at hbody
      exact hbody.symm
    rw [← hname]
    split
    case isTrue h => rw [h]; exact .noColor
    case isFalse =>
      split
      case isTrue h => rw [h]; exact .version (Or.inr (Or.inl rfl))
      case isFalse =>
        split
        case isTrue h => rw [h]; exact .help (Or.inl rfl)
        case isFalse => exact .unknown
  case h_4 => exact .unknown

theorem form_ofText (t : Text) : Form t (ofText t) := by
  unfold ofText
  split
  case h_1 => exact .endOfOptions
  case h_2 => exact form_ofOption _
  case h_3 => exact .version (Or.inr (Or.inr (Or.inr ⟨_, rfl⟩)))
  case h_4 => exact .help (Or.inr (Or.inr (Or.inl ⟨_, rfl⟩)))
  case h_5 => exact .unknown
  case h_6 hletters =>
    refine .value ?_
    cases t with
    | nil => exact Or.inr (by simp)
    | cons c rest =>
      by_cases hc : c = '-'
      · subst c
        cases rest with
        | nil => exact Or.inl rfl
        | cons letter rest => exact (hletters letter rest rfl).elim
      · exact Or.inr (by simpa using hc)

theorem ofText_of_isValue {t : Text} (h : IsValue t) : ofText t = .value t := by
  rcases h with rfl | h
  · rfl
  · unfold ofText
    split <;> simp_all

theorem ofText_option (s : Setting) : ofText s.option = .setting s none := by
  cases s <;> rfl

theorem ofText_option_append (s : Setting) (token : Text) :
    ofText (s.option ++ '=' :: token) = .setting s (some token) := by
  cases s <;> rfl

end Argument

namespace Given

def take (g : Given) : Item → Except Misuse Given
  | .file path => g.setFile path
  | .time s token => g.set s token
  | .noColor => g.setNoColor

theorem scan_of_spelled {item : Item} {first : List Text} (h : item.Spelled first) (g : Given)
    (rest : List Text) :
    g.scan none (first ++ rest) = g.take item >>= (·.scan none rest) := by
  cases h with
  | file hpath =>
    simp only [List.singleton_append, scan, Argument.ofText_of_isValue hpath, take]
  | apart htoken =>
    simp only [List.cons_append, List.nil_append, scan, Argument.ofText_option,
      Argument.ofText_of_isValue htoken, take]
  | attached =>
    simp only [List.singleton_append, scan, Argument.ofText_option_append, take]
  | noColor => rfl

theorem scan_of_spell {items : List Item} {arguments : List Text}
    (h : Item.Spell items arguments) (g : Given) :
    g.scan none arguments = do return .report (← items.foldlM take g).invocation := by
  induction h generalizing g with
  | nil => rfl
  | cons hfirst _ ih =>
    simp only [scan_of_spelled hfirst, ih, List.foldlM_cons, bind_assoc]
  | files =>
    rw [List.foldlM_map]
    rfl

/-- The arguments spell something, or they are refused whatever was given before them. -/
def SpellOrRefused (arguments : List Text) : Prop :=
  (∃ items, Item.Spell items arguments) ∨
    ∀ g : Given, ∃ misuse, g.scan none arguments = .error misuse

theorem spellOrRefused_append {item : Item} {first rest : List Text} (hfirst : item.Spelled first)
    (hrest : SpellOrRefused rest) : SpellOrRefused (first ++ rest) := by
  rcases hrest with ⟨items, hrest⟩ | hrest
  · exact Or.inl ⟨item :: items, .cons hfirst hrest⟩
  · refine Or.inr fun g => ?_
    rw [scan_of_spelled hfirst]
    cases g.take item with
    | error misuse => exact ⟨misuse, rfl⟩
    | ok next => exact hrest next

theorem spellOrRefused_option_cons {argument : Text} {rest : List Text} (s : Setting)
    (hrest : SpellOrRefused rest) : SpellOrRefused (s.option :: argument :: rest) := by
  have hform := Argument.form_ofText argument
  generalize hread : Argument.ofText argument = read at hform
  cases hform with
  | value ht => exact spellOrRefused_append (.apart ht) hrest
  | _ =>
    refine Or.inr fun g => ⟨.missingValue s, ?_⟩
    simp only [scan, Argument.ofText_option, hread]

/-- The induction also looks at a time that still waits for its token. -/
theorem spellOrRefused_of_not_asks {arguments : List Text}
    (hasks : ∀ a ∈ arguments.takeWhile (· ≠ "--".toList), ¬ AsksForHelpOrVersion a) :
    SpellOrRefused arguments ∧ ∀ s : Setting, SpellOrRefused (s.option :: arguments) := by
  induction arguments with
  | nil =>
    refine ⟨Or.inl ⟨[], .nil⟩, fun s => Or.inr fun g => ⟨.missingValue s, ?_⟩⟩
    simp only [scan, Argument.ofText_option]
  | cons argument rest ih =>
    by_cases hend : argument = "--".toList
    · subst hend
      refine ⟨Or.inl ⟨_, .files⟩, fun s => Or.inr fun g => ⟨.missingValue s, ?_⟩⟩
      simp only [scan, Argument.ofText_option]
      rfl
    · rw [List.takeWhile_cons_of_pos (by simpa using hend)] at hasks
      have hrest := ih fun a ha => hasks a (List.mem_cons_of_mem _ ha)
      have hargument := hasks argument List.mem_cons_self
      refine ⟨?_, fun s => spellOrRefused_option_cons s hrest.1⟩
      have hform := Argument.form_ofText argument
      generalize hread : Argument.ofText argument = read at hform
      cases hform with
      | value ht => exact spellOrRefused_append (.file ht) hrest.1
      | endOfOptions => exact absurd rfl hend
      | apart => exact hrest.2 _
      | attached => exact spellOrRefused_append .attached hrest.1
      | noColor => exact spellOrRefused_append .noColor hrest.1
      | version ht => exact absurd ht hargument
      | help ht => exact absurd ht hargument
      | unknown => exact Or.inr fun g => ⟨.unexpected argument, by simp only [scan, hread]⟩

theorem setFile_eq_ok_iff {g next : Given} {path : Text} :
    g.setFile path = .ok next ↔
      g.file = none ∧ path ≠ [] ∧ next = { g with file := some path } := by
  unfold setFile
  split
  case isTrue hfile => simp [Option.isSome_iff_ne_none.mp hfile]
  case isFalse hfile =>
    split
    case isTrue hpath => simp [hpath]
    case isFalse hpath =>
      rw [Except.ok.injEq, eq_comm, Option.not_isSome_iff_eq_none.mp hfile]
      simp [hpath]

theorem set_eq_ok_iff {g next : Given} {s : Setting} {token : Text} :
    g.set s token = .ok next ↔
      g.time s = none ∧ ∃ m, Minutes.parse token = .ok m ∧ next = g.put m s := by
  unfold set
  split
  case isTrue htime => simp [Option.isSome_iff_ne_none.mp htime]
  case isFalse htime =>
    rw [Option.not_isSome_iff_eq_none.mp htime]
    split
    case h_1 m hread => simp [hread, eq_comm]
    case h_2 why hread => simp [hread]

theorem setNoColor_eq_ok_iff {g next : Given} :
    g.setNoColor = .ok next ↔ g.noColor = false ∧ next = { g with noColor := true } := by
  unfold setNoColor
  split
  case isTrue hcolor => simp [hcolor]
  case isFalse hcolor => simp [hcolor, eq_comm]

/-- What was given but for one time. -/
def without (g : Given) : Setting → Given
  | .workday => { g with workday := none }
  | .lunch => { g with lunch := none }
  | .tolerance => { g with tolerance := none }

theorem time_without (g : Given) (s s' : Setting) :
    (g.without s).time s' = if s = s' then none else g.time s' := by
  cases s <;> cases s' <;> rfl

theorem time_put (g : Given) (m : Minutes) (s : Setting) : (g.put m s).time s = some m := by
  cases s <;> rfl

theorem put_without {g : Given} {s : Setting} {m : Minutes} (h : g.time s = some m) :
    (g.without s).put m s = g := by
  cases s <;> simp only [time] at h <;> simp only [without, put, ← h]

theorem without_put {g : Given} {s : Setting} (h : g.time s = none) (m : Minutes) :
    (g.put m s).without s = g := by
  cases s <;> simp only [time] at h <;> simp only [without, put, ← h]

theorem of_iff {items : List Item} {g : Given} :
    g.Of items ↔ items.filterMap Item.path? = g.file.toList ∧ g.file ≠ some [] ∧
      (∀ s, (items.filterMap (Item.token? s)).map Minutes.parse =
        ((g.time s).map Except.ok).toList) ∧
      items.countP Item.isNoColor = g.noColor.toNat := by
  constructor
  · intro h
    refine ⟨h.file, h.file_ne, fun s => ?_, h.noColor⟩
    cases s with
    | workday => exact h.workday
    | lunch => exact h.lunch
    | tolerance => exact h.tolerance
  · rintro ⟨hfile, hne, htime, hcolor⟩
    exact ⟨hfile, hne, htime .workday, htime .lunch, htime .tolerance, hcolor⟩

theorem append_singleton_eq_toList_iff {α : Type} {l : List α} {a : α} {o : Option α} :
    l ++ [a] = o.toList ↔ l = [] ∧ o = some a := by
  cases o with
  | none => simp
  | some b =>
    rw [Option.toList_some, List.append_eq_singleton_iff]
    simp [eq_comm]

theorem of_append_file {items : List Item} {path : Text} {g : Given} :
    g.Of (items ++ [.file path]) ↔
      g.file = some path ∧ path ≠ [] ∧ Of items { g with file := none } := by
  have hpaths : (items ++ [Item.file path]).filterMap Item.path? =
      items.filterMap Item.path? ++ [path] := by simp [Item.path?]
  have htokens (s : Setting) : (items ++ [Item.file path]).filterMap (Item.token? s) =
      items.filterMap (Item.token? s) := by simp [Item.token?]
  have hcolor : (items ++ [Item.file path]).countP Item.isNoColor =
      items.countP Item.isNoColor := by simp [Item.isNoColor]
  have htime (s : Setting) : time { g with file := none } s = g.time s := rfl
  rw [of_iff, of_iff, hpaths, hcolor, append_singleton_eq_toList_iff]
  simp only [htokens, htime]
  constructor
  · rintro ⟨⟨hitems, hfile⟩, hne, hrest⟩
    exact ⟨hfile, by simpa [hfile] using hne, hitems, by simp, hrest⟩
  · rintro ⟨hfile, hne, hitems, -, hrest⟩
    exact ⟨⟨hitems, hfile⟩, by simpa [hfile] using hne, hrest⟩

theorem of_append_time {items : List Item} {s : Setting} {token : Text} {g : Given} :
    g.Of (items ++ [.time s token]) ↔
      ∃ m, g.time s = some m ∧ Minutes.parse token = .ok m ∧ Of items (g.without s) := by
  have hpaths : (items ++ [Item.time s token]).filterMap Item.path? =
      items.filterMap Item.path? := by simp [Item.path?]
  have htokens (s' : Setting) : (items ++ [Item.time s token]).filterMap (Item.token? s') =
      items.filterMap (Item.token? s') ++ if s = s' then [token] else [] := by
    by_cases hs : s = s' <;> simp [Item.token?, hs]
  have hcolor : (items ++ [Item.time s token]).countP Item.isNoColor =
      items.countP Item.isNoColor := by simp [Item.isNoColor]
  have hfile : (g.without s).file = g.file := by cases s <;> rfl
  have hflag : (g.without s).noColor = g.noColor := by cases s <;> rfl
  rw [of_iff, of_iff, hpaths, hcolor, hfile, hflag]
  simp only [htokens, time_without]
  constructor
  · rintro ⟨hitems, hne, htimes, hcount⟩
    have hs := htimes s
    rw [if_pos rfl, List.map_append, List.map_singleton, append_singleton_eq_toList_iff,
      Option.map_eq_some_iff] at hs
    obtain ⟨hnone, m, htime, hread⟩ := hs
    refine ⟨m, htime, hread.symm, hitems, hne, fun s' => ?_, hcount⟩
    by_cases heq : s = s'
    · rw [← heq, hnone, if_pos rfl]
      rfl
    · have hs' := htimes s'
      rw [if_neg heq, List.append_nil] at hs'
      rw [if_neg heq, hs']
  · rintro ⟨m, htime, hread, hitems, hne, htimes, hcount⟩
    refine ⟨hitems, hne, fun s' => ?_, hcount⟩
    have hs' := htimes s'
    rw [List.map_append, hs']
    by_cases heq : s = s'
    · rw [← heq, htime]
      simp [hread]
    · rw [if_neg heq, if_neg heq]
      simp

theorem of_append_noColor {items : List Item} {g : Given} :
    g.Of (items ++ [.noColor]) ↔ g.noColor = true ∧ Of items { g with noColor := false } := by
  have hpaths : (items ++ [Item.noColor]).filterMap Item.path? =
      items.filterMap Item.path? := by simp [Item.path?]
  have htokens (s : Setting) : (items ++ [Item.noColor]).filterMap (Item.token? s) =
      items.filterMap (Item.token? s) := by simp [Item.token?]
  have hcolor : (items ++ [Item.noColor]).countP Item.isNoColor =
      items.countP Item.isNoColor + 1 := by simp [Item.isNoColor]
  have htime (s : Setting) : time { g with noColor := false } s = g.time s := rfl
  rw [of_iff, of_iff, hpaths, hcolor]
  simp only [htokens, htime]
  cases g.noColor with
  | false => simp
  | true => simp

theorem of_append_singleton {items : List Item} {item : Item} {g : Given} :
    g.Of (items ++ [item]) ↔ ∃ g' : Given, g'.Of items ∧ g'.take item = .ok g := by
  cases item with
  | file path =>
    simp only [of_append_file, take, setFile_eq_ok_iff]
    constructor
    · rintro ⟨hfile, hpath, hof⟩
      exact ⟨_, hof, rfl, hpath, by rw [← hfile]⟩
    · rintro ⟨g', hof, hfile, hpath, rfl⟩
      exact ⟨rfl, hpath, by rw [← hfile]; exact hof⟩
  | time s token =>
    simp only [of_append_time, take, set_eq_ok_iff]
    constructor
    · rintro ⟨m, htime, hread, hof⟩
      have hnone : (g.without s).time s = none := by rw [time_without, if_pos rfl]
      exact ⟨_, hof, hnone, m, hread, (put_without htime).symm⟩
    · rintro ⟨g', hof, hnone, m, hread, rfl⟩
      refine ⟨m, time_put g' m s, hread, ?_⟩
      rw [without_put hnone]
      exact hof
  | noColor =>
    simp only [of_append_noColor, take, setNoColor_eq_ok_iff]
    constructor
    · rintro ⟨hcolor, hof⟩
      exact ⟨_, hof, rfl, by rw [← hcolor]⟩
    · rintro ⟨g', hof, hcolor, rfl⟩
      exact ⟨rfl, by rw [← hcolor]; exact hof⟩

theorem of_nil_iff {g : Given} : g.Of [] ↔ g = nothing := by
  constructor
  · rintro ⟨hfile, -, hworkday, hlunch, htolerance, hcolor⟩
    obtain ⟨file, workday, lunch, tolerance, noColor⟩ := g
    have hfile : file = none := Option.toList_eq_nil_iff.mp hfile.symm
    have hworkday : workday = none := by simpa using hworkday.symm
    have hlunch : lunch = none := by simpa using hlunch.symm
    have htolerance : tolerance = none := by simpa using htolerance.symm
    have hcolor : noColor = false := by simpa using hcolor.symm
    rw [hfile, hworkday, hlunch, htolerance, hcolor, nothing]
  · rintro rfl
    exact ⟨rfl, by simp [nothing], rfl, rfl, rfl, rfl⟩

theorem foldlM_take_eq_ok_iff {items : List Item} {g : Given} :
    items.foldlM take nothing = .ok g ↔ g.Of items := by
  -- From the end, where what the last item gave can be taken back.
  induction items using List.reverseRecOn generalizing g with
  | nil =>
    rw [of_nil_iff]
    exact ⟨fun h => (Except.ok.inj h).symm, fun h => congrArg Except.ok h.symm⟩
  | append_singleton items item ih =>
    rw [List.foldlM_append, bind_eq_ok_iff, of_append_singleton]
    simp [ih]

end Given

theorem Request.parse_eq_report {arguments : List Text} {g : Given} (h : g.SpelledBy arguments) :
    Request.parse arguments = .ok (.report g.invocation) := by
  obtain ⟨items, hspell, hof⟩ := h
  rw [Request.parse, Given.scan_of_spell hspell, Given.foldlM_take_eq_ok_iff.mpr hof]
  rfl

theorem Request.parse_eq_error {arguments : List Text}
    (hnone : ∀ g : Given, ¬ g.SpelledBy arguments)
    (hasks : ∀ a ∈ arguments.takeWhile (· ≠ "--".toList), ¬ AsksForHelpOrVersion a) :
    ∃ misuse, Request.parse arguments = .error misuse := by
  rcases (Given.spellOrRefused_of_not_asks hasks).1 with ⟨items, hspell⟩ | hrefused
  · rw [Request.parse, Given.scan_of_spell hspell]
    cases hfold : items.foldlM Given.take Given.nothing with
    | error misuse => exact ⟨misuse, rfl⟩
    | ok g => exact absurd ⟨items, hspell, Given.foldlM_take_eq_ok_iff.mp hfold⟩ (hnone g)
  · exact hrefused Given.nothing

end HourBank
