import Chip8.Log.Printer
import Chip8.Proofs.Capitals
import Chip8.Proofs.Hundredths
import Chip8.Proofs.Result
import Chip8.Proofs.Simulation

/-!
# Proofs/Filtering — which messages of a history are printed, and how

What a printed line looks like is said here without the printer (`Logger.IsLine`), and so is what a
call brings: messages that each come under the name of a level (`Call.entries`), or a level to set
(`Call.levelSet?`), and what it is refused for.  What a printer does with a call is then one
equation (`perform_eq`): it takes the messages and takes over the level.  Over a history its logger
only moves from level to level, so each message is printed if it reaches the level last set before
it (`Follows`, `filtered_by_level`).
-/

namespace Chip8

/-! ## Names of levels -/

namespace Level

variable {name : String} {level : Level}

/-- Every level is found by its name, and by no other. -/
theorem ofName?_eq_some_iff : ofName? name = some level ↔ level.name = name := by
  constructor
  · intro h
    simpa using List.find?_some h
  · rintro rfl
    exact ofName?_name level

theorem ofName?_eq_none_iff : ofName? name = none ↔ ∀ level : Level, level.name ≠ name := by
  rw [Option.eq_none_iff_forall_ne_some]
  exact forall_congr' fun level => not_congr ofName?_eq_some_iff

theorem upper_name (level : Level) : Text.upper level.name = level.name := by
  cases level <;> decide

/-- What a name is refused for that is none of a level's. -/
def unknown (name : String) : Error := .unknownLevel (Text.upper name) (all.map Level.name)

/-- A name in any case is parsed to the level that its capitals name. -/
theorem parse_of_some (h : ofName? (Text.upper name) = some level) : parse name = .ok level := by
  simp only [parse, h]

theorem parse_of_none (h : ofName? (Text.upper name) = none) :
    parse name = .error (unknown name) := by
  simp only [parse, h, unknown]

/-- The levels that are at least as serious as one. -/
def upwards : Level → List Level
  | debug => [debug, info, warning, error, critical]
  | info => [info, warning, error, critical]
  | warning => [warning, error, critical]
  | error => [error, critical]
  | critical => [critical]

/-- The levels from one upwards are those of at least its rank. -/
theorem rank_le_iff {level other : Level} : level.rank ≤ other.rank ↔ other ∈ level.upwards := by
  cases level <;> cases other <;> decide

end Level

/-! ## What a line looks like -/

namespace Logger

/-- A level between brackets, at the right end of eight characters. -/
def tagText : Level → String
  | .debug => "[   DEBUG]"
  | .info => "[    INFO]"
  | .warning => "[ WARNING]"
  | .error => "[   ERROR]"
  | .critical => "[CRITICAL]"

/-- A level on a terminal, between the sign that turns its colour on and the one that turns it
off. -/
def colorText : Level → String
  | .debug => "\x1b[36m[   DEBUG]\x1b[0m"
  | .info => "\x1b[32m[    INFO]\x1b[0m"
  | .warning => "\x1b[33m[ WARNING]\x1b[0m"
  | .error => "\x1b[31m[   ERROR]\x1b[0m"
  | .critical => "\x1b[35m[CRITICAL]\x1b[0m"

/-- That a text is the time stamp of a line: the seconds since the start in the nearest hundredths,
at the right end of eight characters. -/
def IsStamp (l : Logger) (now : Double) (stamp : String) : Prop :=
  if l.stamped then ∃ seconds : String, (now - l.start).ShowsHundredths seconds ∧
    stamp = "[" ++ String.ofList (List.replicate (8 - seconds.length) ' ') ++ seconds ++ "s]"
  else stamp = ""

/-- That a text is the line of a message. -/
def IsLine (l : Logger) (now : Double) (level : Level) (message line : String) : Prop :=
  ∃ stamp, l.IsStamp now stamp ∧
    line = stamp ++ (if l.colored then colorText level else tagText level) ++
      "[" ++ l.name ++ "] " ++ message

/-- The stamp shows the time since the start. -/
theorem isStamp_stamp (l : Logger) (now : Double) : l.IsStamp now (l.stamp now) := by
  unfold IsStamp stamp
  split
  · refine ⟨_, Double.showsHundredths_fixed _, ?_⟩
    refine String.toList_injective ?_
    simp [List.leftpad, toString, ← String.length_toList]
  · rfl

/-- The tag of a level is the text for it, in its colour if colours are on. -/
theorem tag_eq (l : Logger) (level : Level) :
    l.tag level = if l.colored then colorText level else tagText level := by
  unfold tag
  split <;> cases level <;> decide

/-- **A printed line is the line of its message.** -/
theorem isLine_line (l : Logger) (now : Double) (level : Level) (message : String) :
    l.IsLine now level message (l.line now level message) := by
  refine ⟨l.stamp now, l.isStamp_stamp now, ?_⟩
  rw [line, tag_eq]
  refine String.toList_injective ?_
  simp [toString]

/-- A logger at another level. -/
def atLevel (l : Logger) (level : Level) : Logger :=
  { l with threshold := level, levelName := level.name }

/-- Loggers that are made alike differ in level only. -/
theorem exists_create (name : String) (colors stamped reports terminal : Bool) (start : Double) :
    ∃ l : Logger, (l.name = name ∧ l.colored = (colors && terminal) ∧ l.stamped = stamped ∧
      l.start = start ∧ l.reports = reports) ∧
      ∀ {level : String} {first : Level}, first.name = Text.upper level →
        create name level colors stamped reports terminal start = .ok (l.atLevel first) := by
  refine ⟨{ name, colored := colors && terminal, stamped, reports, start },
    ⟨rfl, rfl, rfl, rfl, rfl⟩, ?_⟩
  intro level first h
  rw [create, Level.parse_of_some (Level.ofName?_eq_some_iff.2 h)]
  rfl

end Logger

namespace Printer

/-! ## What a call is about -/

/-- A message that comes to a printer at some time, under one of the levels. -/
structure Message where
  time : Double
  level : Level
  text : String

namespace Call

/-- The rule above and below the settings: sixty equality signs. -/
def ruleText : String := "============================================================"

/-- The messages of a call, each with the name of its level. -/
def entries : Call → List (String × String)
  | setLevel _ => []
  | log level message => [(level, message)]
  | say level message => [(level.name, message)]
  | boot settings =>
    ("INFO", ruleText) :: ("INFO", "Booting CHIP-8 with configuration:") ::
      settings.entries.map (fun s => ("INFO", "  " ++ s.1 ++ ": " ++ s.2)) ++ [("INFO", ruleText)]
  | programLoaded size => [("INFO", toString size ++ " bytes loaded to memory")]
  | halting pc => [("INFO", "Halting at 0x" ++ Text.hexInt 3 pc)]
  | failure title message => [("ERROR", title ++ ": " ++ message)]

/-- Whether a call is for one of the reports. -/
def isReport : Call → Bool
  | setLevel _ | log .. | say .. => false
  | boot _ | programLoaded _ | halting _ | failure .. => true

/-- The name of a level that comes with a call. -/
def levelName? : Call → Option String
  | setLevel level | log level _ => some level
  | _ => none

/-- What a call is refused for: a name that is none of a level, in letters of whatever case. -/
def refusal? (c : Call) : Option Error :=
  c.levelName?.bind fun name =>
    if (Level.ofName? (Text.upper name)).isSome then none else some (Level.unknown name)

/-- What comes of a call: nothing, unless it is refused. -/
def answer (c : Call) : Except Error Unit :=
  match c.refusal? with
  | none => .ok ()
  | some err => .error err

/-- The level that a call sets. -/
def levelSet? : Call → Option Level
  | setLevel level => Level.ofName? (Text.upper level)
  | _ => none

/-- The messages of a call that come under one of the levels. -/
def heard (c : Call) : List (Level × String) :=
  c.entries.filterMap fun entry =>
    (Level.ofName? (Text.upper entry.1)).map fun level => (level, entry.2)

end Call

/-- The messages of a call that comes after some others, each at its time. -/
def told (time : Nat → Double) (before : List Call) (c : Call) : List Message :=
  c.heard.mapIdx fun i m => ⟨time ((before.flatMap Call.heard).length + i), m.1, m.2⟩

/-- What comes of all calls of a history, each after those before it. -/
def history (f : List Call → Call → List Message) (calls : List Call) : List Message :=
  (calls.mapIdx fun i c => f (calls.take i) c).flatten

/-- The messages that reach a level. -/
def reaching (level : Level) (messages : List Message) : List Message :=
  messages.filter fun m => m.level ∈ level.upwards

/-- The level in force after some calls: that of the last one that set a level, or the first one. -/
def inForce (first : Level) (calls : List Call) : Level :=
  (calls.filterMap Call.levelSet?).getLast?.getD first

/-- The messages of a call that are printed after some others. -/
def due (time : Nat → Double) (first : Level) (before : List Call) (c : Call) : List Message :=
  reaching (inForce first before) (told time before c)

/-- A printer under calls; it answers whether they are refused. -/
def service (time : Nat → Double) : Service Printer Call (Except Error Unit) where
  serve p c := let o := c.perform time p; (o.result, o.host)

variable {time : Nat → Double} {p : Printer} {c : Call} {calls : List Call} {l : Logger}
  {first : Level}

/-! ## One call -/

/-- A printer that has taken some messages. -/
def taking (time : Nat → Double) (p : Printer) (messages : List (Level × String)) : Printer where
  logger := p.logger
  count := p.count + messages.length
  printed := p.printed ++
    (messages.mapIdx fun i m => p.logger.write (time (p.count + i)) m.1 m.2).flatten

/-- A printer at the level that is set, if any is. -/
def setting (p : Printer) (level? : Option Level) : Printer :=
  { p with logger := (level?.map p.logger.atLevel).getD p.logger }

theorem taking_nil (time : Nat → Double) (p : Printer) : taking time p [] = p := by
  simp [taking]

/-- Messages are taken one after another. -/
theorem taking_cons (time : Nat → Double) (p : Printer) (m : Level × String)
    (rest : List (Level × String)) :
    taking time p (m :: rest) = taking time (taking time p [m]) rest := by
  simp [taking, Nat.add_assoc, Nat.add_comm 1]

/-- A name in capitals is parsed as it was in small letters. -/
theorem parse_upper (name : String) : Level.parse (Text.upper name) = Level.parse name := by
  simp only [Level.parse, Text.upper_upper]

/-- A message under the name of a level is taken at that level. -/
theorem log_of_some {name : String} {level : Level}
    (h : Level.ofName? (Text.upper name) = some level) (message : String) (p : Printer) :
    log time name message p = ⟨.ok (), taking time p [(level, message)], []⟩ := by
  simp [log, parse_upper, Level.parse_of_some h, Outcome.andThen, receive, taking]

theorem log_of_none {name : String} (h : Level.ofName? (Text.upper name) = none)
    (message : String) (p : Printer) :
    log time name message p = ⟨.error (Level.unknown name), p, []⟩ := by
  simp [log, parse_upper, Level.parse_of_none h, Outcome.andThen]

theorem log_name (level : Level) (message : String) (p : Printer) :
    log time level.name message p = ⟨.ok (), taking time p [(level, message)], []⟩ := by
  refine log_of_some ?_ message p
  rw [Level.upper_name, Level.ofName?_name]

/-- The name of a level sets both copies of the level in force. -/
theorem setLevel_of_some {name : String} {level : Level}
    (h : Level.ofName? (Text.upper name) = some level) (p : Printer) :
    setLevel name p = ⟨.ok (), setting p (some level), []⟩ := by
  simp [setLevel, Level.parse_of_some h, Outcome.andThen, setting, Logger.atLevel]

theorem setLevel_of_none {name : String} (h : Level.ofName? (Text.upper name) = none)
    (p : Printer) : setLevel name p = ⟨.error (Level.unknown name), p, []⟩ := by
  simp [setLevel, Level.parse_of_none h, Outcome.andThen]

/-- A report is taken line by line. -/
theorem forM_log (level : Level) (messages : List String) (p : Printer) :
    (forM messages (log time level.name) : Interaction Printer Unit) p =
      ⟨.ok (), taking time p (messages.map (level, ·)), []⟩ := by
  induction messages generalizing p with
  | nil => simp [taking_nil]
  | cons message rest ih =>
    rw [List.forM_cons, Interaction.bind_apply, log_name, List.map_cons,
      taking_cons time p (level, message) (rest.map (level, ·))]
    simp only [Outcome.andThen, ih, List.nil_append]

/-- **A report that is asked for** takes its messages one by one at its level. -/
theorem report_eq (h : p.logger.reports = true) (name : String) (level : Level)
    (messages : List String) : report time name level messages p =
      ⟨.ok (), taking time p (messages.map (level, ·)), []⟩ := by
  simp [report, Logger.demand, h, Outcome.andThen, forM_log]

theorem ofName?_upper_name (level : Level) :
    Level.ofName? (Text.upper level.name) = some level := by
  rw [Level.upper_name, Level.ofName?_name]

/-- A call that logs under the names of levels is heard as it logs. -/
theorem heard_of_entries {messages : List (Level × String)}
    (h : c.entries = messages.map fun m => (m.1.name, m.2)) : c.heard = messages := by
  rw [Call.heard, h, List.filterMap_map]
  simp [ofName?_upper_name]

/-- A call that gives the name of a level succeeds. -/
theorem answer_of_some {name : String} {level : Level} (hname : c.levelName? = some name)
    (h : Level.ofName? (Text.upper name) = some level) : c.answer = .ok () := by
  simp [Call.answer, Call.refusal?, hname, h]

/-- A name that is none of a level's is refused, and changes and prints nothing. -/
theorem perform_of_unknown {name : String} (hname : c.levelName? = some name)
    (h : Level.ofName? (Text.upper name) = none) (time : Nat → Double) (p : Printer) :
    c.answer = .error (Level.unknown name) ∧ c.levelSet? = none ∧ c.heard = [] ∧
      c.perform time p = ⟨.error (Level.unknown name), p, []⟩ := by
  have hanswer : c.answer = .error (Level.unknown name) := by
    simp [Call.answer, Call.refusal?, hname, h]
  refine ⟨hanswer, ?_⟩
  cases c with
  | setLevel given =>
    obtain rfl : given = name := Option.some.inj hname
    exact ⟨h, rfl, setLevel_of_none h p⟩
  | log given message =>
    obtain rfl : given = name := Option.some.inj hname
    exact ⟨rfl, by simp [Call.heard, Call.entries, h], log_of_none h message p⟩
  | say | boot | programLoaded | halting | failure => cases hname

/-- A call whose name is refused takes nothing and sets nothing. -/
theorem perform_eq_of_unknown {name : String} (hname : c.levelName? = some name)
    (h : Level.ofName? (Text.upper name) = none) :
    c.perform time p = ⟨c.answer, setting (taking time p c.heard) c.levelSet?, []⟩ := by
  obtain ⟨hanswer, hset, hheard, hperform⟩ := perform_of_unknown hname h time p
  rw [hperform, hanswer, hset, hheard, taking_nil]
  rfl

/-- A report, when it is asked for, does what its messages do one by one. -/
theorem perform_report {name : String} {level : Level} {messages : List String}
    (h : p.logger.reports = true) (hperform : c.perform time = report time name level messages)
    (hentries : c.entries = messages.map fun m => (level.name, m)) (hset : c.levelSet? = none)
    (hname : c.levelName? = none) :
    c.perform time p = ⟨c.answer, setting (taking time p c.heard) c.levelSet?, []⟩ := by
  have hheard : c.heard = messages.map (level, ·) := heard_of_entries (by simp [hentries])
  have hanswer : c.answer = .ok () := by simp [Call.answer, Call.refusal?, hname]
  rw [hperform, report_eq h, hheard, hanswer, hset]
  rfl

/-- **A call on a printer** that has what is asked for: it takes the messages, prints those that
reach the level in force, and takes over the level that is set. -/
theorem perform_eq (h : c.isReport = true → p.logger.reports = true) :
    c.perform time p = ⟨c.answer, setting (taking time p c.heard) c.levelSet?, []⟩ := by
  cases c with
  | setLevel name =>
    cases hlevel : Level.ofName? (Text.upper name) with
    | none => exact perform_eq_of_unknown rfl hlevel
    | some level =>
      have hheard : (Call.setLevel name).heard = [] := rfl
      have hset : (Call.setLevel name).levelSet? = some level := hlevel
      rw [answer_of_some (c := .setLevel name) rfl hlevel, hheard, hset, taking_nil]
      exact setLevel_of_some hlevel p
  | log name message =>
    cases hlevel : Level.ofName? (Text.upper name) with
    | none => exact perform_eq_of_unknown rfl hlevel
    | some level =>
      have hheard : (Call.log name message).heard = [(level, message)] := by
        simp [Call.heard, Call.entries, hlevel]
      rw [answer_of_some (c := .log name message) rfl hlevel, hheard]
      exact log_of_some hlevel message p
  | say level message =>
    have hheard : (Call.say level message).heard = [(level, message)] := heard_of_entries rfl
    rw [hheard]
    exact log_name level message p
  | boot settings =>
    refine perform_report (h rfl) rfl ?_ rfl rfl
    have hrule : Report.rule = Call.ruleText := by decide
    simp [Call.entries, Report.boot, hrule, Level.name, toString]
  | programLoaded size => exact perform_report (h rfl) rfl rfl rfl rfl
  | halting pc => exact perform_report (h rfl) rfl rfl rfl rfl
  | failure title message => exact perform_report (h rfl) rfl rfl rfl rfl

/-! ## Histories -/

/-- The level in force is the one that was set last. -/
theorem inForce_concat (first : Level) (calls : List Call) (c : Call) :
    inForce first (calls ++ [c]) = c.levelSet?.getD (inForce first calls) := by
  rw [inForce, List.filterMap_append]
  cases hset : c.levelSet? with
  | none => simp [hset, inForce]
  | some level => simp [hset]

theorem inForce_of_none (hset : ∀ c ∈ calls, c.levelSet? = none) : inForce first calls = first := by
  rw [inForce, List.filterMap_eq_nil_iff.2 hset]
  rfl

/-- A history grows by what comes of its last call. -/
theorem history_concat (f : List Call → Call → List Message) (calls : List Call) (c : Call) :
    history f (calls ++ [c]) = history f calls ++ f calls c := by
  have hbefore : (calls.mapIdx fun i d => f ((calls ++ [c]).take i) d) =
      calls.mapIdx fun i d => f (calls.take i) d := by
    rw [List.mapIdx_eq_mapIdx_iff]
    intro i hi
    rw [List.take_append_of_le_length hi.le]
  rw [history, List.mapIdx_concat, hbefore, List.take_left, List.flatten_concat]
  rfl

/-- The printed lines of some messages are those of the messages that reach the level. -/
theorem flatten_write (l : Logger) (clock : Nat → Double) (messages : List (Level × String)) :
    (messages.mapIdx fun i m => l.write (clock i) m.1 m.2).flatten =
      (reaching l.threshold (messages.mapIdx fun i m => ⟨clock i, m.1, m.2⟩)).map
        fun m => l.line m.time m.level m.text := by
  induction messages generalizing clock with
  | nil => rfl
  | cons m rest ih =>
    rw [List.mapIdx_cons, List.flatten_cons, ih fun i => clock (i + 1), List.mapIdx_cons,
      Logger.write, Logger.prints]
    by_cases h : m.1 ∈ l.threshold.upwards
    · simp [reaching, Level.rank_le_iff, h]
    · simp [reaching, Level.rank_le_iff, h]

/-- That a printer is what some calls make of the logger `l` at the level `first`. -/
structure Follows (time : Nat → Double) (l : Logger) (first : Level) (calls : List Call)
    (p : Printer) : Prop where
  logger_eq : p.logger = l.atLevel (inForce first calls)
  count_eq : p.count = (calls.flatMap Call.heard).length
  printed_eq : p.printed =
    (history (due time first) calls).map fun m => l.line m.time m.level m.text

/-- **One more call** is followed. -/
theorem Follows.perform (hp : Follows time l first calls p)
    (h : c.isReport = true → l.reports = true) :
    (c.perform time p).result = c.answer ∧
      Follows time l first (calls ++ [c]) (c.perform time p).host := by
  have hreports : p.logger.reports = l.reports := by
    rw [hp.logger_eq]
    rfl
  rw [perform_eq fun hc => hreports.trans (h hc)]
  refine ⟨rfl, ?_, ?_, ?_⟩
  · rw [inForce_concat, setting, taking, hp.logger_eq]
    cases c.levelSet? <;> rfl
  · simp [setting, taking, hp.count_eq]
  · rw [history_concat, List.map_append, due, told, setting, taking, hp.printed_eq, hp.count_eq,
      flatten_write, hp.logger_eq]
    rfl

theorem follows_start (time : Nat → Double) (l : Logger) (first : Level) :
    Follows time l first [] { logger := l.atLevel first } :=
  ⟨rfl, rfl, rfl⟩

/-- **Any calls** are followed; each is answered for itself. -/
theorem Follows.run {before : List Call} (hp : Follows time l first before p)
    (h : ∀ c ∈ calls, c.isReport = true → l.reports = true) :
    (service time).answers p calls = calls.map Call.answer ∧
      Follows time l first (before ++ calls) ((service time).after p calls) := by
  induction calls generalizing before p with
  | nil =>
    rw [List.append_nil]
    exact ⟨rfl, hp⟩
  | cons c calls ih =>
    obtain ⟨hc, hcalls⟩ := List.forall_mem_cons.1 h
    obtain ⟨hresult, hnext⟩ := hp.perform hc
    obtain ⟨hanswers, hafter⟩ := ih hnext hcalls
    have hserve : (service time).serve p c = (c.answer, (c.perform time p).host) :=
      Prod.ext hresult rfl
    rw [Service.answers_cons, Service.after_cons, hserve, hanswers, List.append_cons]
    exact ⟨rfl, hafter⟩

/-- What reaches the higher of two levels reaches the lower one. -/
theorem reaching_reaching {low high : Level} (h : high ∈ low.upwards)
    (messages : List Message) : reaching high (reaching low messages) = reaching high messages := by
  rw [reaching, reaching, List.filter_filter]
  refine List.filter_congr fun m _ => ?_
  rw [Bool.and_eq_left_iff_imp, decide_eq_true_eq, decide_eq_true_eq]
  intro hm
  exact Level.rank_le_iff.1 ((Level.rank_le_iff.2 h).trans (Level.rank_le_iff.2 hm))

/-- Taking the messages that reach a level from each call takes them from the whole history. -/
theorem history_reaching (level : Level) (f : List Call → Call → List Message)
    (calls : List Call) :
    history (fun before c => reaching level (f before c)) calls =
      reaching level (history f calls) := by
  induction calls using List.reverseRecOn with
  | nil => rfl
  | append_singleton calls c ih =>
    rw [history_concat, history_concat, ih, reaching, reaching, reaching, List.filter_append]

/-- What is printed while no level is set. -/
theorem history_due (hset : ∀ c ∈ calls, c.levelSet? = none) :
    history (due time first) calls = reaching first (history (told time) calls) := by
  rw [← history_reaching, history, history]
  refine congrArg List.flatten (List.mapIdx_eq_mapIdx_iff.2 fun i hi => ?_)
  rw [due, inForce_of_none fun c hc => hset c (List.mem_of_mem_take hc)]

/-- **The messages that reach the level in force are printed**, in order and each as a line of the
logger, and no others.  The level moves with the calls that set one, and its name with it.  A name
that is none of a level's is refused, prints nothing and leaves the printer as it is; a name in
capitals counts like the same name in other letters.  While no level is set, a logger with a higher
level prints those of the lines that come of messages which reach it. -/
theorem filtered_by_level {first : Level} {level : String} (hlevel : first.name = Text.upper level)
    (name : String) (colors stamped reports terminal : Bool) (start : Double) :
    ∃ l, Logger.create name level colors stamped reports terminal start = .ok l ∧
      (l.name = name ∧ l.colored = (colors && terminal) ∧ l.stamped = stamped ∧
        l.start = start) ∧
      ∃ line : Message → String, (∀ m, l.IsLine m.time m.level m.text (line m)) ∧
        ∀ (time : Nat → Double) (calls : List Call),
          (reports = true ∨ ∀ c ∈ calls, c.isReport = false) →
          let p := (service time).after { logger := l } calls
          (service time).answers { logger := l } calls = calls.map Call.answer ∧
          p.printed = (history (due time first) calls).map line ∧
          p.logger = { l with
            threshold := inForce first calls, levelName := (inForce first calls).name } ∧
          (∀ (c : Call) (given : String), c.levelName? = some given →
            (∀ level : Level, level.name ≠ Text.upper given) →
              c.perform time p = ⟨.error (Level.unknown given), p, []⟩ ∧
                (Level.unknown given).title = "ValueError") ∧
          (∀ given message,
            log time (Text.upper given) message p = log time given message p) ∧
          ((∀ c ∈ calls, c.levelSet? = none) → ∀ (high : Level) (level' : String),
            high.name = Text.upper level' → high ∈ first.upwards → ∃ l',
              Logger.create name level' colors stamped reports terminal start = .ok l' ∧
              p.printed = (reaching first (history (told time) calls)).map line ∧
              ((service time).after { logger := l' } calls).printed =
                (reaching high (reaching first (history (told time) calls))).map line) := by
  obtain ⟨l, ⟨rfl, hcolored, rfl, rfl, rfl⟩, hcreate⟩ :=
    Logger.exists_create name colors stamped reports terminal start
  refine ⟨_, hcreate hlevel, ⟨rfl, hcolored, rfl, rfl⟩, fun m => l.line m.time m.level m.text,
    fun m => (l.atLevel first).isLine_line m.time m.level m.text, fun time calls hcalls => ?_⟩
  have hreports : ∀ c ∈ calls, c.isReport = true → l.reports = true := by
    intro c hc hreport
    refine hcalls.resolve_right fun hplain => ?_
    exact Bool.false_ne_true ((hplain c hc).symm.trans hreport)
  obtain ⟨hanswers, hfollows⟩ := (follows_start time l first).run hreports
  refine ⟨hanswers, hfollows.printed_eq, hfollows.logger_eq, ?_, ?_, ?_⟩
  · intro c given hgiven hunknown
    obtain ⟨_, _, _, hperform⟩ :=
      perform_of_unknown hgiven (Level.ofName?_eq_none_iff.2 hunknown) time _
    exact ⟨hperform, rfl⟩
  · intro given message
    simp only [log, parse_upper]
  · intro hset high level' hhigh hle
    obtain ⟨_, hother⟩ := (follows_start time l high).run hreports
    refine ⟨_, hcreate hhigh, ?_, ?_⟩
    · rw [← history_due hset]
      exact hfollows.printed_eq
    · rw [reaching_reaching hle, ← history_due hset]
      exact hother.printed_eq

/-- A history with a change of level and a name that is none of a level's. -/
theorem filtered_by_level_of_five_calls : ∃ (l : Logger) (line : Message → String),
    Logger.create "test" "Warning" false true true false 0 = .ok l ∧
      (∀ m, l.IsLine m.time m.level m.text (line m)) ∧
      let calls := [Call.log "info" "a", .setLevel "loud", .log "Error" "b", .setLevel "debug",
        .halting 512]
      let p := (service fun i => .ofInt i).after { logger := l } calls
      p.printed = [line ⟨.ofInt 1, .error, "b"⟩, line ⟨.ofInt 2, .info, "Halting at 0x200"⟩] ∧
        p.logger.threshold = .debug ∧ p.logger.levelName = "DEBUG" := by
  have hlevel : Level.warning.name = Text.upper "Warning" := by decide
  obtain ⟨l, hcreate, _, line, hline, hcalls⟩ :=
    filtered_by_level hlevel "test" false true true false 0
  refine ⟨l, line, hcreate, hline, ?_⟩
  obtain ⟨_, hprinted, hlogger, _⟩ := hcalls (fun i => .ofInt i) [Call.log "info" "a",
    .setLevel "loud", .log "Error" "b", .setLevel "debug", .halting 512] (.inl rfl)
  have hlast : inForce .warning [Call.log "info" "a", .setLevel "loud", .log "Error" "b",
      .setLevel "debug", .halting 512] = .debug := by decide
  rw [hlast] at hlogger
  exact ⟨hprinted, congrArg Logger.threshold hlogger, congrArg Logger.levelName hlogger⟩

end Printer

end Chip8
