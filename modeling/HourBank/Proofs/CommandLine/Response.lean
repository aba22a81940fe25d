import HourBank.CommandLine.Response
import HourBank.Proofs.CommandLine.Arguments
import HourBank.Proofs.Folder

/-! What the program answers to its arguments. The answer follows the run of the file that was asked
for, under the schedule that was asked for. -/

namespace HourBank

/-- The answer tells what a run came to, below a banner: only a ledger has its totals at the end,
and each of the three outcomes has its own exit code. -/
structure Response.Tells (styled : Bool) (r : Run) (answer : Response) : Prop where
  closed : ∀ l, r.outcome = .ok l →
    answer.exitCode = 0 ∧
    answer.stdout = "\nPontofile\nponto 0.1.0\n\n".toList ++ r.printed styled ++
      ("\nTempo total no escritório :  ".toList ++ l.totalTime.unsigned ++
        "\nBanco de Horas .......... : ".toList ++ l.bank.signed ++
        "\nDias off ................ :  ".toList ++
          (Text.decimal l.daysOff.toNat).leftpad 5 ' ' ++ "\n\n".toList)
  failed : ∀ why, r.outcome = .error (.failure why) →
    answer.exitCode = 1 ∧
    answer.stdout = "\nPontofile\nponto 0.1.0\n\n".toList ++ r.printed styled
  overflowed : ∀ operation, r.outcome = .error (.overflow operation) →
    answer.exitCode = 101 ∧
    answer.stdout = "\nPontofile\nponto 0.1.0\n\n".toList ++ r.printed styled

theorem banner_eq : banner = "\nPontofile\nponto 0.1.0\n\n".toList := by decide

theorem Ledger.printed_summary (l : Ledger) : l.summary.printed =
    "\nTempo total no escritório :  ".toList ++ l.totalTime.unsigned ++
      "\nBanco de Horas .......... : ".toList ++ l.bank.signed ++
      "\nDias off ................ :  ".toList ++
        (Text.decimal l.daysOff.toNat).leftpad 5 ' ' ++ "\n\n".toList := by
  have hhead : '\n' :: "Tempo total no escritório :  ".toList =
      "\nTempo total no escritório :  ".toList := by decide
  exact congrArg (· ++ l.totalTime.unsigned ++ _ ++ l.bank.signed ++ _ ++ _ ++ _) hhead

namespace Invocation

theorem tells_response (i : Invocation) (styled : Bool) (contents : Except ReadError Text) :
    Response.Tells (styled && !i.noColor) (Run.ofFile (.start i.schedule) i.file contents)
      (i.response styled contents) where
  closed l hl := by
    rw [response, hl, ← banner_eq, ← l.printed_summary]
    exact ⟨rfl, rfl⟩
  failed why hwhy := by
    rw [response, hwhy, ← banner_eq]
    exact ⟨rfl, rfl⟩
  overflowed operation hoperation := by
    rw [response, hoperation, ← banner_eq]
    exact ⟨rfl, rfl⟩

theorem response_unreadable (i : Invocation) (styled : Bool) (why : ReadError) :
    (i.response styled (.error why)).exitCode = 1 ∧
      (i.response styled (.error why)).stdout = "\nPontofile\nponto 0.1.0\n\n".toList := by
  have htells := (i.tells_response styled (.error why)).failed (.unreadable i.file why) rfl
  have hprinted : (Run.ofFile (.start i.schedule) i.file (.error why)).printed
      (styled && !i.noColor) = [] := rfl
  rwa [hprinted, List.append_nil] at htells

end Invocation

theorem Given.spelledBy_file {path : Text} (hne : path ≠ []) (hdash : path.head? ≠ some '-') :
    Given.SpelledBy ⟨some path, none, none, none, false⟩ [path] := by
  have hfile : Item.Spelled (.file path) [path] := .file (Or.inr hdash)
  exact ⟨_, .cons hfile .nil, rfl, mt Option.some.inj hne, rfl, rfl, rfl, rfl⟩

namespace Response

/-- Arguments that spell an invocation are answered by the run of its file and by nothing else, and
all others are refused before any file is read. -/
theorem ofArguments_follows_run {m : Type → Type} [Monad m] (arguments : List Text) (styled : Bool)
    (read : Text → m (Except ReadError Text)) :
    (∀ g : Given, g.SpelledBy arguments →
      ∃ (path : Text) (s : Schedule) (answer : Except ReadError Text → Response),
        path = g.file.getD "Pontofile".toList ∧
        s = { workday := g.workday.getD { toInt := 480 }
              lunch := g.lunch.getD { toInt := 60 }
              tolerance := g.tolerance.getD { toInt := 10 } } ∧
        ofArguments arguments styled read = (do return answer (← read path)) ∧
        (∀ contents,
          Tells (styled && !g.noColor) (Run.ofFile (.start s) path contents) (answer contents)) ∧
        ∀ why, (answer (.error why)).exitCode = 1 ∧
          (answer (.error why)).stdout = "\nPontofile\nponto 0.1.0\n\n".toList) ∧
    ((∀ g : Given, ¬ g.SpelledBy arguments) →
      (∀ a ∈ arguments.takeWhile (· ≠ "--".toList), ¬ AsksForHelpOrVersion a) →
      ∃ stderr, ofArguments arguments styled read = pure ⟨2, [], stderr⟩) := by
  constructor
  · intro g hspelled
    refine ⟨_, _, g.invocation.response styled, rfl, rfl, ?_,
      g.invocation.tells_response styled, g.invocation.response_unreadable styled⟩
    rw [ofArguments, Request.parse_eq_report hspelled]
    rfl
  · intro hnone hasks
    obtain ⟨misuse, hmisuse⟩ := Request.parse_eq_error hnone hasks
    refine ⟨(misuse.response).stderr, ?_⟩
    rw [ofArguments, hmisuse]
    rfl

/-- With six hours of work and no lunch, the time from nine to half past three is half an hour too
much. Beside that file stand a folder and a file that holds no text. -/
theorem ofArguments_follows_run_of_short_day :
    ∃ (f : Folder) (stderr : Text),
      f.files = [("horas.txt".toList, "DATA 2024-01-01\nPONTO 09:00 15:30".toUTF8),
        ("2023/horas.txt".toList, ByteArray.empty), ("foto.png".toList, ⟨#[0x89, 0x50]⟩)] ∧
      (ofArguments (m := Id) ["--workday".toList, "06:00".toList, "horas.txt".toList,
        "--lunch=0:00".toList] false f.read).exitCode = 0 ∧
      (ofArguments (m := Id) ["--workday".toList, "06:00".toList, "horas.txt".toList,
        "--lunch=0:00".toList] false f.read).stdout =
        "\nPontofile\nponto 0.1.0\n\n".toList ++
          ("Dia 2024-01-01  |  ------------------------  |  \n".toList ++
            "         Ponto  |  09:00 -> 15:30 (T 06:30)  |  \n".toList ++
            "   Ponto Final  |  09:00 -> 15:30 (T 06:30)  |  BhΔ +00:30  Bh Tot. +00:30\n\n".toList) ++
          ("\nTempo total no escritório :  06:30".toList ++
            "\nBanco de Horas .......... : +00:30".toList ++
            "\nDias off ................ :      0\n\n".toList) ∧
      (∀ path ∈ ["2022".toList, "2023".toList, "foto.png".toList],
        (ofArguments (m := Id) [path] false f.read).exitCode = 1 ∧
        (ofArguments (m := Id) [path] false f.read).stdout =
          "\nPontofile\nponto 0.1.0\n\n".toList) ∧
      ofArguments (m := Id) ["--lunch".toList, "1h".toList] false f.read = ⟨2, [], stderr⟩ := by
  let f : Folder := ⟨[("horas.txt".toList, "DATA 2024-01-01\nPONTO 09:00 15:30".toUTF8),
    ("2023/horas.txt".toList, ByteArray.empty), ("foto.png".toList, ⟨#[0x89, 0x50]⟩)]⟩
  let text := "DATA 2024-01-01\nPONTO 09:00 15:30".toList
  let s : Schedule := { workday := { toInt := 360 }, lunch := .zero, tolerance := { toInt := 10 } }
  let l : Ledger :=
    { schedule := s
      current := some ⟨⟨2024, 1, 1⟩, some { toInt := 540 }, { toInt := 390 }⟩
      bank := { toInt := 30 }
      totalTime := { toInt := 390 }
      daysOff := 0 }
  have hspelled : Given.SpelledBy
      ⟨some "horas.txt".toList, some { toInt := 360 }, some .zero, none, false⟩
      ["--workday".toList, "06:00".toList, "horas.txt".toList, "--lunch=0:00".toList] := by
    have hworkday : Item.Spelled (.time .workday "06:00".toList)
        ["--workday".toList, "06:00".toList] := .apart (Or.inr (by decide))
    have hfile : Item.Spelled (.file "horas.txt".toList) ["horas.txt".toList] :=
      .file (Or.inr (by decide))
    have hlunch : Item.Spelled (.time .lunch "0:00".toList) ["--lunch=0:00".toList] := .attached
    exact ⟨_, .cons hworkday (.cons hfile (.cons hlunch .nil)), rfl, by decide, rfl, rfl, rfl, rfl⟩
  have hrefused : ∀ g : Given, ¬ g.SpelledBy ["--lunch".toList, "1h".toList] := by
    intro g hg
    have hread : Request.parse ["--lunch".toList, "1h".toList] =
      .error (.invalidValue .lunch (.time "1h".toList)) := by decide +kernel
    rw [Request.parse_eq_report hg] at hread
    cases hread
  have hrun : (Run.ofText (.start s) text).outcome = .ok l := by decide +kernel
  obtain ⟨_, _, answer, rfl, rfl, hanswer, htells, -⟩ :=
    (ofArguments_follows_run (m := Id) _ false f.read).1 _ hspelled
  obtain ⟨stderr, hstderr⟩ :=
    (ofArguments_follows_run (m := Id) ["--lunch".toList, "1h".toList] false f.read).2
      hrefused (by decide)
  have hread : f.read "horas.txt".toList = .ok text := rfl
  have hreport := hanswer.trans (congrArg answer hread)
  obtain ⟨hcode, hstdout⟩ := (htells (.ok text)).closed l hrun
  refine ⟨f, stderr, rfl, (congrArg exitCode hreport).trans hcode,
    (congrArg stdout hreport).trans (hstdout.trans ?_), ?_, hstderr⟩
  · exact congrArg₂ (_ ++ · ++ ·) (by decide +kernel) (by decide +kernel)
  · intro path hpath
    have hunreadable : ∃ why, f.read path = .error why ∧ path ≠ [] ∧ path.head? ≠ some '-' := by
      simp only [List.mem_cons, List.not_mem_nil, or_false] at hpath
      rcases hpath with rfl | rfl | rfl
      · exact ⟨.notFound, rfl, by decide, by decide⟩
      · exact ⟨.isFolder, rfl, by decide, by decide⟩
      · exact ⟨.notText, rfl, by decide, by decide⟩
    obtain ⟨why, hwhy, hne, hdash⟩ := hunreadable
    obtain ⟨_, _, answer', hplace, -, hanswer', -, hnothing⟩ :=
      (ofArguments_follows_run (m := Id) [path] false f.read).1 _ (Given.spelledBy_file hne hdash)
    rw [hplace] at hanswer'
    have hreport' : ofArguments (m := Id) [path] false f.read = answer' (.error why) :=
      hanswer'.trans (congrArg answer' hwhy)
    rw [hreport']
    exact hnothing why

/-- In a folder, the run is that of the text whose bytes stand where the path leads. Where nothing
stands there, or a folder, or bytes of no text, the answer ends with its banner. -/
theorem ofArguments_in_folder {f : Folder} {g : Given} {arguments path : List Text}
    (hspelled : g.SpelledBy arguments) (hdown : f.LeadsDown (g.file.getD "Pontofile".toList))
    (hpath : path = Folder.steps (g.file.getD "Pontofile".toList)) (styled : Bool) :
    (∀ t : Text, f.node? path = some (.file t.utf8Encode) →
      Tells (styled && !g.noColor) (Run.ofText (.start g.invocation.schedule) t)
        (ofArguments (m := Id) arguments styled f.read)) ∧
    ((∀ t : Text, f.node? path ≠ some (.file t.utf8Encode)) →
      (ofArguments (m := Id) arguments styled f.read).exitCode = 1 ∧
      (ofArguments (m := Id) arguments styled f.read).stdout =
        "\nPontofile\nponto 0.1.0\n\n".toList) := by
  have hanswer : ofArguments (m := Id) arguments styled f.read =
      g.invocation.response styled (f.read (g.file.getD "Pontofile".toList)) := by
    rw [ofArguments, Request.parse_eq_report hspelled]
    rfl
  have hread := Folder.read_of_leadsDown hdown
  rw [← hpath] at hread
  rw [hanswer]
  constructor
  · intro t ht
    rw [hread, ht]
    have htext : decodeText t.utf8Encode = .ok t := decodeText_eq_ok_iff.mpr rfl
    simp only [htext]
    exact g.invocation.tells_response styled (.ok t)
  · intro hno
    have hwhy : ∃ why, f.read (g.file.getD "Pontofile".toList) = .error why := by
      rw [hread]
      cases hnode : f.node? path with
      | none => exact ⟨_, rfl⟩
      | some node =>
        cases node with
        | folder => exact ⟨_, rfl⟩
        | file bytes =>
          refine ⟨_, decodeText_eq_error ?_⟩
          rintro t rfl
          exact hno t hnode
    obtain ⟨why, hwhy⟩ := hwhy
    rw [hwhy]
    exact g.invocation.response_unreadable styled why

end Response

end HourBank
