import HourBank.Command
import HourBank.Proofs.Text.Words

/-! The grammar of a line, told from its words alone. What is wrong with a line is looked for in a
fixed order, only the first fault is reported, and it is told in these words. -/

namespace HourBank

namespace Keyword

/-- Whether a token can be an argument: a date for the keyword that opens a day, else a time. -/
def accepts (k : Keyword) (token : Text) : Bool :=
  match k with
  | .day => (Day.parse token).isOk
  | _ => (Minutes.parse token).isOk

/-- What is said of a token that cannot. -/
def complaint (k : Keyword) (token : Text) : Malformed :=
  match k with
  | .day => .date token
  | _ => .time token

end Keyword

namespace Rejection

/-- What is said of a refused line. A malformed argument is told of twice, with the keyword and as
the cause that the refusal goes back to; no other refusal has a cause. -/
def told : Rejection → List Text
  | .unknown token => ["unknown command: ".toList ++ token]
  | .wrongCount k found =>
    [k.text ++ ": expected ".toList ++ Text.decimal k.arity ++
      (if k.arity = 1 then " argument, got ".toList else " arguments, got ".toList) ++
      Text.decimal found]
  | .malformed k (.time token) =>
    [k.text ++ ": unable to parse time `".toList ++ token ++ "' (HH:MM, may be negative)".toList,
      "unable to parse time `".toList ++ token ++ "' (HH:MM, may be negative)".toList]
  | .malformed k (.date token) =>
    [k.text ++ ": unable to parse date `".toList ++ token ++ "' (YYYY-MM-DD)".toList,
      "unable to parse date `".toList ++ token ++ "' (YYYY-MM-DD)".toList]
  | .noOpenDay k => [k.text ++ " requires an operating day (use DATA)".toList]

theorem append_joined {a b c bc d e : Text} (h : b ++ c = bc) :
    a ++ b ++ (c ++ d ++ e) = a ++ bc ++ d ++ e := by
  simp [← h]

theorem message_cons_cause (why : Rejection) :
    why.message :: why.cause?.toList.map Malformed.message = why.told := by
  cases why with
  | unknown token => rfl
  | wrongCount k found =>
    have hexpected : ": ".toList ++ "expected ".toList = ": expected ".toList := rfl
    have hjoined := append_joined (a := k.text) (d := Text.decimal k.arity)
      (e := if k.arity = 1 then " argument, got ".toList else " arguments, got ".toList) hexpected
    exact congrArg (fun reason => [reason])
      ((List.append_assoc _ _ _).symm.trans (congrArg (· ++ Text.decimal found) hjoined))
  | malformed k bad =>
    cases bad with
    | time token =>
      have hunable : ": ".toList ++ "unable to parse time `".toList =
          ": unable to parse time `".toList := rfl
      exact congrArg (fun reason => [reason, _]) (append_joined hunable)
    | date token =>
      have hunable : ": ".toList ++ "unable to parse date `".toList =
          ": unable to parse date `".toList := rfl
      exact congrArg (fun reason => [reason, _]) (append_joined hunable)
  | noOpenDay k => rfl

end Rejection

namespace Command

inductive Arguments : Command → List Text → Prop
  | bank {a : Text} {balance : Minutes} (ha : Minutes.parse a = .ok balance) :
      Arguments (.bank balance) [a]
  | day {a : Text} {date : Day} (ha : Day.parse a = .ok date) : Arguments (.day date) [a]
  | punch {a b : Text} {clockIn clockOut : Minutes} (ha : Minutes.parse a = .ok clockIn)
      (hb : Minutes.parse b = .ok clockOut) : Arguments (.punch clockIn clockOut) [a, b]
  | estimate {a : Text} {clockIn : Minutes} (ha : Minutes.parse a = .ok clockIn) :
      Arguments (.estimate clockIn) [a]
  | dayOff : Arguments .dayOff []
  | checkpoint : Arguments .checkpoint []

/-- What the words of a line are read as. -/
inductive Reading : List Text → Except Rejection (Option Command) → Prop
  | blank : Reading [] (.ok none)
  | comment {word : Text} {words : List Text} (hmark : word.head? = some '#') :
      Reading (word :: words) (.ok none)
  | unknown {token : Text} {arguments : List Text} (hmark : token.head? ≠ some '#')
      (hnone : ∀ k : Keyword, token.fold ≠ k.text) :
      Reading (token :: arguments) (.error (.unknown token))
  | wrongCount {token : Text} {arguments : List Text} {k : Keyword}
      (hmark : token.head? ≠ some '#') (hk : token.fold = k.text)
      (hcount : arguments.length ≠ k.arity) :
      Reading (token :: arguments) (.error (.wrongCount k arguments.length))
  /-- The leftmost bad argument counts, whatever stands to its right. -/
  | malformed {token bad : Text} {good rest : List Text} {k : Keyword}
      (hmark : token.head? ≠ some '#') (hk : token.fold = k.text)
      (hcount : (good ++ bad :: rest).length = k.arity)
      (hgood : ∀ a ∈ good, k.accepts a = true) (hbad : k.accepts bad = false) :
      Reading (token :: (good ++ bad :: rest)) (.error (.malformed k (k.complaint bad)))
  | command {token : Text} {arguments : List Text} {c : Command}
      (hmark : token.head? ≠ some '#') (hk : token.fold = c.keyword.text)
      (hargs : c.Arguments arguments) :
      Reading (token :: arguments) (.ok (some c))

theorem readTime_of_ok {a : Text} {m : Minutes} (h : Minutes.parse a = .ok m) (k : Keyword) :
    readTime k a = .ok m := by
  rw [readTime, h]
  rfl

theorem readDay_of_ok {a : Text} {d : Day} (h : Day.parse a = .ok d) (k : Keyword) :
    readDay k a = .ok d := by
  rw [readDay, h]
  rfl

theorem readTime_of_not_isOk {a : Text} (h : (Minutes.parse a).isOk = false) (k : Keyword) :
    readTime k a = .error (.malformed k (.time a)) := by
  unfold Minutes.parse at h
  unfold readTime Minutes.parse
  split at h
  · simp [Except.isOk, Except.toBool] at h
  · rfl

theorem readDay_of_not_isOk {a : Text} (h : (Day.parse a).isOk = false) (k : Keyword) :
    readDay k a = .error (.malformed k (.date a)) := by
  unfold Day.parse at h
  unfold readDay Day.parse
  split at h
  · simp [Except.isOk, Except.toBool] at h
  · rfl

theorem exists_of_isOk {ε α : Type} {x : Except ε α} (h : x.isOk = true) : ∃ a, x = .ok a := by
  cases x with
  | error e => simp [Except.isOk, Except.toBool] at h
  | ok a => exact ⟨a, rfl⟩

theorem ofArguments_of_length_ne {k : Keyword} {arguments : List Text}
    (h : arguments.length ≠ k.arity) :
    ofArguments k arguments = .error (.wrongCount k arguments.length) := by
  unfold ofArguments
  split <;> simp_all [Keyword.arity]

theorem Arguments.ofArguments_eq {c : Command} {arguments : List Text}
    (h : c.Arguments arguments) : ofArguments c.keyword arguments = .ok c := by
  cases h with
  | bank ha => simp [ofArguments, keyword, readTime_of_ok ha, Except.map]
  | day ha => simp [ofArguments, keyword, readDay_of_ok ha, Except.map]
  | punch ha hb =>
    simp only [ofArguments, keyword, readTime_of_ok ha, readTime_of_ok hb]
    rfl
  | estimate ha => simp [ofArguments, keyword, readTime_of_ok ha, Except.map]
  | dayOff => rfl
  | checkpoint => rfl

theorem nil_of_length_eq_one {α : Type} {good rest : List α} {bad : α}
    (h : (good ++ bad :: rest).length = 1) : good = [] ∧ rest = [] := by
  rw [List.length_append, List.length_cons] at h
  exact ⟨List.length_eq_zero_iff.mp (by omega), List.length_eq_zero_iff.mp (by omega)⟩

theorem ofArguments_of_bad {k : Keyword} {good rest : List Text} {bad : Text}
    (hcount : (good ++ bad :: rest).length = k.arity) (hgood : ∀ a ∈ good, k.accepts a = true)
    (hbad : k.accepts bad = false) :
    ofArguments k (good ++ bad :: rest) = .error (.malformed k (k.complaint bad)) := by
  cases k with
  | bank =>
    obtain ⟨rfl, rfl⟩ := nil_of_length_eq_one hcount
    have hread := readTime_of_not_isOk hbad .bank
    simp [ofArguments, hread, Except.map, Keyword.complaint]
  | day =>
    obtain ⟨rfl, rfl⟩ := nil_of_length_eq_one hcount
    have hread := readDay_of_not_isOk hbad .day
    simp [ofArguments, hread, Except.map, Keyword.complaint]
  | estimate =>
    obtain ⟨rfl, rfl⟩ := nil_of_length_eq_one hcount
    have hread := readTime_of_not_isOk hbad .estimate
    simp [ofArguments, hread, Except.map, Keyword.complaint]
  | punch =>
    -- The bad argument is the first, whatever the second is, or the second after a good first one.
    have hbad' := readTime_of_not_isOk hbad .punch
    cases good with
    | nil =>
      have hrest : rest.length = 1 := by simpa [Keyword.arity] using hcount
      obtain ⟨b, rfl⟩ := List.length_eq_one_iff.mp hrest
      simp only [List.nil_append, ofArguments, hbad']
      rfl
    | cons a good =>
      have hmore : (good ++ bad :: rest).length = 1 := by simpa [Keyword.arity] using hcount
      obtain ⟨rfl, rfl⟩ := nil_of_length_eq_one hmore
      obtain ⟨m, hm⟩ := exists_of_isOk (hgood a List.mem_cons_self)
      simp only [List.singleton_append, ofArguments, readTime_of_ok hm, hbad']
      rfl
  | dayOff => simp [Keyword.arity] at hcount
  | checkpoint => simp [Keyword.arity] at hcount

theorem exists_arguments {k : Keyword} {arguments : List Text}
    (hcount : arguments.length = k.arity) (hgood : ∀ a ∈ arguments, k.accepts a = true) :
    ∃ c : Command, c.keyword = k ∧ c.Arguments arguments := by
  cases k with
  | bank =>
    obtain ⟨a, rfl⟩ := List.length_eq_one_iff.mp hcount
    obtain ⟨balance, ha⟩ := exists_of_isOk (hgood a (List.mem_singleton.mpr rfl))
    exact ⟨.bank balance, rfl, .bank ha⟩
  | day =>
    obtain ⟨a, rfl⟩ := List.length_eq_one_iff.mp hcount
    obtain ⟨date, ha⟩ := exists_of_isOk (hgood a (List.mem_singleton.mpr rfl))
    exact ⟨.day date, rfl, .day ha⟩
  | punch =>
    obtain ⟨a, b, rfl⟩ := List.length_eq_two.mp hcount
    obtain ⟨clockIn, ha⟩ := exists_of_isOk (hgood a (by simp))
    obtain ⟨clockOut, hb⟩ := exists_of_isOk (hgood b (by simp))
    exact ⟨.punch clockIn clockOut, rfl, .punch ha hb⟩
  | estimate =>
    obtain ⟨a, rfl⟩ := List.length_eq_one_iff.mp hcount
    obtain ⟨clockIn, ha⟩ := exists_of_isOk (hgood a (List.mem_singleton.mpr rfl))
    exact ⟨.estimate clockIn, rfl, .estimate ha⟩
  | dayOff =>
    obtain rfl := List.length_eq_zero_iff.mp hcount
    exact ⟨.dayOff, rfl, .dayOff⟩
  | checkpoint =>
    obtain rfl := List.length_eq_zero_iff.mp hcount
    exact ⟨.checkpoint, rfl, .checkpoint⟩

theorem all_accepted_or_split (k : Keyword) (arguments : List Text) :
    (∀ a ∈ arguments, k.accepts a = true) ∨
      ∃ good bad rest, arguments = good ++ bad :: rest ∧ (∀ a ∈ good, k.accepts a = true) ∧
        k.accepts bad = false := by
  cases hfind : arguments.find? (!k.accepts ·) with
  | none =>
    left
    simpa using List.find?_eq_none.mp hfind
  | some bad =>
    right
    obtain ⟨hbad, good, rest, hsplit, hgood⟩ := List.find?_eq_some_iff_append.mp hfind
    exact ⟨good, bad, rest, hsplit, by simpa using hgood, by simpa using hbad⟩

theorem exists_reading (ws : List Text) : ∃ r, Reading ws r := by
  cases ws with
  | nil => exact ⟨_, .blank⟩
  | cons token arguments =>
    by_cases hmark : token.head? = some '#'
    · exact ⟨_, .comment hmark⟩
    · by_cases hk : ∃ k : Keyword, token.fold = k.text
      · obtain ⟨k, hk⟩ := hk
        by_cases hcount : arguments.length = k.arity
        · rcases all_accepted_or_split k arguments with hgood | ⟨good, bad, rest, rfl, hgood, hbad⟩
          · obtain ⟨c, rfl, hargs⟩ := exists_arguments hcount hgood
            exact ⟨_, .command hmark hk hargs⟩
          · exact ⟨_, .malformed hmark hk hcount hgood hbad⟩
        · exact ⟨_, .wrongCount hmark hk hcount⟩
      · exact ⟨_, .unknown hmark (not_exists.mp hk)⟩

theorem parseLine_of_skipped {line : Text}
    (h : ∀ c ∈ line.words.head?.bind List.head?, c = '#') : parseLine line = .ok none := by
  rw [← Text.head?_trim] at h
  unfold parseLine
  split
  · rfl
  · rfl
  · rename_i trimmed hne hmark
    cases ht : line.trim with
    | nil => exact absurd ht hne
    | cons c rest =>
      have hc : c = '#' := h c (by rw [ht]; rfl)
      exact absurd (hc ▸ ht) (hmark rest)

theorem parse_eq_of_words {line other : Text} (hwords : line.words = other.words)
    (hne : line.words ≠ []) : parse line = parse other := by
  unfold parse
  rw [← hwords]
  split
  · rename_i hnil
    exact absurd hnil hne
  · rfl

theorem parseLine_of_read {line token : Text} {arguments : List Text}
    (hwords : line.words = token :: arguments) (hmark : token.head? ≠ some '#') :
    parseLine line = (parse line).map some := by
  have hhead := Text.head?_trim line
  rw [hwords, List.head?_cons, Option.bind_some] at hhead
  have hsame : parse line.trim = parse line := by
    apply parse_eq_of_words (Text.words_trim line)
    rw [Text.words_trim, hwords]
    exact List.cons_ne_nil _ _
  unfold parseLine
  split
  · rename_i hnil
    have hnone := Text.words_trim line
    rw [hnil, hwords] at hnone
    exact absurd hnone.symm (List.cons_ne_nil _ _)
  · rename_i rest hrest
    rw [hrest, List.head?_cons] at hhead
    exact absurd hhead.symm hmark
  · rw [hsame]

theorem parse_of_keyword {line token : Text} {arguments : List Text} {k : Keyword}
    (hwords : line.words = token :: arguments) (hk : token.fold = k.text) :
    parse line = ofArguments k arguments := by
  simp only [parse, hwords, Keyword.ofToken?_eq_some_iff.mpr hk]

theorem parse_of_unknown {line token : Text} {arguments : List Text}
    (hwords : line.words = token :: arguments) (hnone : ∀ k : Keyword, token.fold ≠ k.text) :
    parse line = .error (.unknown token) := by
  have hno : Keyword.ofToken? token = none := by
    cases h : Keyword.ofToken? token with
    | none => rfl
    | some k => exact absurd (Keyword.ofToken?_eq_some_iff.mp h) (hnone k)
  simp only [parse, hwords, hno]

theorem Reading.parseLine_eq {line : Text} {r : Except Rejection (Option Command)}
    (h : Reading line.words r) : parseLine line = r := by
  generalize hwords : line.words = ws at h
  cases h with
  | blank => exact parseLine_of_skipped (by simp [hwords])
  | comment hmark => exact parseLine_of_skipped (by simp [hwords, hmark])
  | unknown hmark hnone =>
    rw [parseLine_of_read hwords hmark, parse_of_unknown hwords hnone]
    rfl
  | wrongCount hmark hk hcount =>
    rw [parseLine_of_read hwords hmark, parse_of_keyword hwords hk,
      ofArguments_of_length_ne hcount]
    rfl
  | malformed hmark hk hcount hgood hbad =>
    rw [parseLine_of_read hwords hmark, parse_of_keyword hwords hk,
      ofArguments_of_bad hcount hgood hbad]
    rfl
  | command hmark hk hargs =>
    rw [parseLine_of_read hwords hmark, parse_of_keyword hwords hk, hargs.ofArguments_eq]
    rfl

theorem parseLine_eq_iff {line : Text} {r : Except Rejection (Option Command)} :
    parseLine line = r ↔ Reading line.words r := by
  constructor
  · rintro rfl
    obtain ⟨r, h⟩ := exists_reading line.words
    rwa [h.parseLine_eq]
  · exact Reading.parseLine_eq

theorem parse_map_some_eq_parseLine_iff {line : Text} :
    (parse line).map some = parseLine line ↔ parseLine line ≠ .ok none := by
  constructor
  · intro h hskip
    rw [hskip] at h
    cases hparse : parse line <;> simp [hparse, Except.map] at h
  · intro h
    cases hread : line.words with
    | nil => exact absurd (parseLine_of_skipped (by simp [hread])) h
    | cons token arguments =>
      by_cases hmark : token.head? = some '#'
      · exact absurd (parseLine_of_skipped (by simp [hread, hmark])) h
      · exact (parseLine_of_read hread hmark).symm

theorem parseLine_congr {line line' : Text} (h : line.words = line'.words) :
    parseLine line = parseLine line' := by
  have hread : Reading line'.words (parseLine line') := parseLine_eq_iff.mp rfl
  rw [← h] at hread
  exact hread.parseLine_eq

/-- A line is read by its words alone, those that it lays out, as the grammar has it. Reading the
words at once agrees with it unless the line is skipped. A wrong number of arguments goes back to
nothing else, a malformed argument to the token that is. -/
theorem parseLine_reads_words (line : Text) :
    (∀ ws, line.words = ws ↔ Text.Laid ws line ∧ ∀ w ∈ ws, Text.IsWord w) ∧
    (∀ r, parseLine line = r ↔ Reading line.words r) ∧
    (∀ other : Text, other.words = line.words → parseLine other = parseLine line) ∧
    ((parse line).map some = parseLine line ↔ parseLine line ≠ .ok none) ∧
    ∀ why, parseLine line = .error why →
      why.message :: why.cause?.toList.map Malformed.message = why.told ∧
      (∀ k found, why = .wrongCount k found → why.cause? = none ∧
        why.message = k.text ++ ": expected ".toList ++ Text.decimal k.arity ++
          (if k.arity = 1 then " argument, got ".toList else " arguments, got ".toList) ++
          Text.decimal found) ∧
      ∀ k bad, why = .malformed k bad → why.cause? = some bad := by
  refine ⟨fun ws => Text.words_eq_iff, fun r => parseLine_eq_iff, fun other => parseLine_congr,
    parse_map_some_eq_parseLine_iff, ?_⟩
  intro why _
  have htold := why.message_cons_cause
  refine ⟨htold, ?_, ?_⟩
  · rintro k found rfl
    exact ⟨rfl, (List.cons.inj htold).1⟩
  · rintro k bad rfl
    rfl

/-- Three arguments for two are refused as such, though the first two are malformed as well. -/
theorem parseLine_reads_words_of_wrong_count :
    ∃ why : Rejection, parseLine "ponto 9h 18h 19:00".toList = .error why ∧ why.cause? = none ∧
      why.message = "PONTO: expected 2 arguments, got 3".toList ∧
      parseLine "DATA".toList = .error (.wrongCount .day 0) ∧
      (Rejection.wrongCount .day 0).message = "DATA: expected 1 argument, got 0".toList ∧
      parseLine "PONTO 09:00 18h".toList = .error (.malformed .punch (.time "18h".toList)) ∧
      (Rejection.malformed .punch (.time "18h".toList)).cause? = some (.time "18h".toList) := by
  have hcount : parseLine "ponto 9h 18h 19:00".toList = .error (.wrongCount .punch 3) := by
    decide +kernel
  have hday : parseLine "DATA".toList = .error (.wrongCount .day 0) := by decide +kernel
  have htime : parseLine "PONTO 09:00 18h".toList =
      .error (.malformed .punch (.time "18h".toList)) := by
    decide +kernel
  obtain ⟨-, hnone, -⟩ := (parseLine_reads_words _).2.2.2.2 _ hcount
  obtain ⟨-, hone, -⟩ := (parseLine_reads_words _).2.2.2.2 _ hday
  obtain ⟨-, -, hcause⟩ := (parseLine_reads_words _).2.2.2.2 _ htime
  exact ⟨_, hcount, (hnone _ _ rfl).1, (hnone _ _ rfl).2, hday, (hone _ _ rfl).2, htime,
    hcause _ _ rfl⟩

end Command

end HourBank
