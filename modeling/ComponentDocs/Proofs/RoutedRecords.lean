import ComponentDocs.Log.Loggers
import ComponentDocs.Proofs.Gathering

/-!
# Where records are written

The log may be configured over and over while records are logged. Each configuration takes away the
handlers of the one before it (`Logger.configure_eq`), and no logger but the one at the root ever gets a
level or handlers. This is what one event keeps of the state (`Configured`), and from it follows what a
whole run writes: a sink holds, in order, the records that were due to it when they were logged
(`contents_run`), each of them once.

A record belongs to the stream of the last configuration, and to its file, if its level reaches the
threshold (`Configuration.Takes`). A file that cannot be opened has no handler, and a file does not take
a record that cannot be encoded. The records are those of parts whose names do not begin with a dot:
their loggers stand below the root, whatever other loggers are known (`isBelowRoot_loggerName`).
-/

set_option autoImplicit false

namespace ComponentDocs.Log

open OrderedMap

/-! ## Configuring a logger -/

/-- The handlers of a configuration. -/
def Configuration.handlers (c : Configuration) : List Handler :=
  c.streamHandler :: c.fileHandler?.toList

/-- The logger at the root under a configuration. -/
def Configuration.logger (c : Configuration) : Logger :=
  { level := some (threshold c.verbose), handlers := c.handlers, propagates := false }

namespace Logger

/-- Removing the handlers that a logger has removes all of them. -/
theorem foldl_removeHandler (handlers : List Handler) (l : Logger) (h : l.handlers = handlers) :
    handlers.foldl removeHandler l = { l with handlers := [] } := by
  -- the first handler to be removed is the first of the logger, so what is left are the others
  induction handlers generalizing l with
  | nil =>
      obtain ⟨level, handlers, propagates⟩ := l
      subst h
      rfl
  | cons first others ih =>
      have hrest : (l.removeHandler first).handlers = others := by
        simp [removeHandler, h]
      rw [List.foldl_cons, ih (l.removeHandler first) hrest]
      rfl

/-- A logger that is configured is left with nothing that it had before. -/
theorem configure_eq (l : Logger) (c : Configuration) : l.configure c = c.logger := by
  have hreset : l.reset c =
      { level := some (threshold c.verbose), handlers := [c.streamHandler], propagates := false } := by
    unfold reset
    simp only
    rw [foldl_removeHandler _ _ rfl]
    rfl
  unfold configure Configuration.logger Configuration.handlers
  rw [hreset]
  cases c.fileHandler? with
  | none => rfl
  | some h => rfl

end Logger

/-! ## Names below the root -/

/-- A logger stands at the root or below it. -/
def IsBelowRoot (known : List Text) (name : Text) : Prop :=
  rootName ∈ name :: ancestors known name

instance (known : List Text) (name : Text) : Decidable (IsBelowRoot known name) :=
  inferInstanceAs (Decidable (rootName ∈ name :: ancestors known name))

/-- Names that are known in another order have the same loggers above them. -/
theorem ancestors_congr {known names : List Text} (h : ∀ name, name ∈ known ↔ name ∈ names)
    (name : Text) : ancestors known name = ancestors names name := by
  have hcontains : known.contains = names.contains := by
    funext name
    rw [Bool.eq_iff_iff, List.contains_iff_mem, List.contains_iff_mem]
    exact h name
  rw [ancestors, ancestors, hcontains]

/-- The part of a name behind the root and a dot is passed over, unless a dot begins it: then that
dot may be where the name is cut, and the one in front of it is not. -/
theorem root_mem_ancestorsFrom (known : Text → Bool) {root : Text} (hroot : root ≠ [])
    (hknown : known root.reverse = true) {part : Text} {first : CodePoint}
    (hlast : part.getLast? = some first) (hfirst : first ≠ '.') (passing : Bool) :
    root.reverse ∈ ancestorsFrom known passing (part ++ .char '.' :: root) := by
  have hdot : root.reverse ∈ ancestorsFrom known false (.char '.' :: root) := by
    cases root with
    | nil => exact absurd rfl hroot
    | cons c rest =>
        rw [ancestorsFrom, if_pos (by simp), if_pos hknown]
        exact List.mem_cons_self
  -- the part is given last character first, so the dot behind it is met at the end of the induction
  induction part generalizing passing with
  | nil => cases hlast
  | cons c part ih =>
      rw [List.cons_append]
      cases part with
      | nil =>
          obtain rfl : c = first := by simpa using hlast
          cases passing with
          | true => exact hdot
          | false =>
              rw [ancestorsFrom, if_neg (by simp [hfirst])]
              exact hdot
      | cons d part =>
          have hlast' : (d :: part).getLast? = some first := by
            simpa [List.getLast?_cons_cons] using hlast
          cases passing with
          | true => exact ih hlast' false
          | false =>
              rw [ancestorsFrom]
              split
              case isTrue =>
                  split
                  case isTrue => exact List.mem_cons_of_mem _ (ih hlast' false)
                  case isFalse => exact ih hlast' true
              case isFalse => exact ih hlast' false

/-- The logger of a part of the program stands below the root, whatever other loggers are known, if
the name of the part does not begin with a dot. -/
theorem isBelowRoot_loggerName {known : List Text} (hknown : rootName ∈ known) {part : Option Text}
    (hpart : ∀ p, part = some p → p.head? ≠ some (.char '.')) :
    IsBelowRoot known (loggerName part) := by
  cases part with
  | none => exact List.mem_cons_self
  | some p =>
      cases p with
      | nil => exact List.mem_cons_self
      | cons c p =>
          apply List.mem_cons_of_mem
          have hfirst : c ≠ '.' := by simpa using hpart (c :: p) rfl
          have hreverse : (loggerName (some (c :: p))).reverse =
              (c :: p).reverse ++ .char '.' :: rootName.reverse := by
            simp [loggerName, Text.ofString]
          have hroot : rootName.reverse ≠ [] := by decide
          have hcontains : known.contains rootName.reverse.reverse = true := by simpa using hknown
          have hlast : (c :: p).reverse.getLast? = some c := by simp
          have hmem := root_mem_ancestorsFrom known.contains hroot hcontains hlast hfirst false
          rw [List.reverse_reverse] at hmem
          rw [ancestors, hreverse]
          exact hmem

/-! ## What an event keeps -/

namespace State

/-- The state is under a configuration: the logger at the root has its level and its handlers, no other
logger has any, and the loggers of the given names are known. -/
structure Configured (c : Configuration) (known : List Text) (s : State) : Prop where
  logger : ∀ name, s.logger name = if name = rootName then c.logger else {}
  known : ∀ name, name ∈ s.loggers.keys ↔ name ∈ known

theorem logger_know (s : State) (name : Text) : (s.know name).logger = s.logger := by
  funext other
  unfold know logger insertIfNew
  by_cases h : other = name
  · subst h
    rw [get?_alter_self]
    rfl
  · rw [get?_alter_of_ne _ _ h]

theorem mem_keys_alter {ν : Type} (m : OrderedMap Text ν) (k : Text) (f : Option ν → ν)
    (name : Text) : name ∈ (m.alter k f).keys ↔ name = k ∨ name ∈ m.keys := by
  rw [keys_alter]
  split
  case isTrue hk =>
      constructor
      · exact Or.inr
      · rintro (rfl | h)
        · exact hk
        · exact h
  case isFalse => simp [or_comm]

/-- What a configuration leaves of the state, whether or not its file can be opened. -/
theorem loggers_configure (s : State) (c : Configuration) :
    (s.configure c).2.loggers = s.loggers.alter rootName fun l => (l.getD {}).configure c := by
  unfold configure
  cases c.openFile with
  | none => rfl
  | some f => rfl

/-- A configuration fails exactly for a file that cannot be opened. -/
theorem configure_fails_iff (s : State) (c : Configuration) (f : Path) :
    (s.configure c).1 = some f ↔ c.file = some ⟨f, false⟩ := by
  obtain ⟨verbose, stream, file⟩ := c
  rcases file with - | ⟨path, opens⟩
  · show none = some f ↔ none = some _
    simp
  · cases opens with
    | true =>
        show none = some f ↔ some (LogFile.mk path true) = some ⟨f, false⟩
        simp
    | false =>
        show some path = some f ↔ some (LogFile.mk path false) = some ⟨f, false⟩
        simp

theorem logger_configure (s : State) (c : Configuration) (name : Text) :
    (s.configure c).2.logger name = if name = rootName then c.logger else s.logger name := by
  unfold logger
  rw [loggers_configure]
  split
  case isTrue h =>
      subst h
      rw [get?_alter_self, Logger.configure_eq]
      rfl
  case isFalse h => rw [get?_alter_of_ne _ _ h]

/-- Only the sinks change when a record is logged by a logger that is known. -/
theorem loggers_log (s : State) (r : Record) : (s.log r).loggers = (s.know r.logger).loggers := by
  unfold log
  simp only
  split
  · rfl
  · rfl

theorem configured_configure {c : Configuration} {known : List Text} {s : State}
    (h : s.Configured c known) (hroot : rootName ∈ known) (new : Configuration) :
    (s.configure new).2.Configured new known where
  logger name := by
    rw [logger_configure, h.logger]
    split
    · rfl
    · rfl
  known name := by
    rw [loggers_configure, mem_keys_alter, h.known]
    constructor
    · rintro (rfl | hname)
      · exact hroot
      · exact hname
    · exact Or.inr

theorem configured_know {c : Configuration} {known : List Text} {s : State}
    (h : s.Configured c known) (name : Text) : (s.know name).Configured c (name :: known) where
  logger other := by rw [logger_know, h.logger]
  known other := by
    show other ∈ (s.loggers.alter name _).keys ↔ other ∈ name :: known
    rw [mem_keys_alter, h.known, List.mem_cons]

theorem configured_log {c : Configuration} {known : List Text} {s : State}
    (h : s.Configured c known) (r : Record) : (s.log r).Configured c (r.logger :: known) := by
  have hknow := configured_know h r.logger
  have hloggers := loggers_log s r
  constructor
  · intro name
    have hsame : (s.log r).logger name = (s.know r.logger).logger name := by
      rw [logger, logger, hloggers]
    rw [hsame, hknow.logger]
  · intro name
    rw [hloggers]
    exact hknow.known name

/-- The first configuration of all. -/
theorem configured_first (c : Configuration) :
    (({} : State).configure c).2.Configured c [rootName] where
  logger name := logger_configure {} c name
  known name := by
    rw [loggers_configure, mem_keys_alter]
    simp

end State

/-! ## The way of a record -/

section Lineage

variable {c : Configuration} {look : Text → Logger}
  (hlook : ∀ name, look name = if name = rootName then c.logger else {})

include hlook

theorem effectiveLevel_lineage (names : List Text) :
    effectiveLevel (names.map look ++ [.top]) =
      if rootName ∈ names then threshold c.verbose else .warning := by
  -- above the root there is no logger with a level but the one at the top
  induction names with
  | nil => rfl
  | cons name names ih =>
      rw [effectiveLevel] at ih ⊢
      rw [List.map_cons, List.cons_append, List.findSome?_cons, hlook]
      by_cases h : name = rootName
      · subst h
        simp [Configuration.logger]
      · rw [if_neg h]
        show (List.findSome? Logger.level (names.map look ++ [.top])).getD .unset = _
        rw [ih]
        simp [Ne.symm h]

theorem handlersAlong_lineage (names : List Text) :
    handlersAlong (names.map look ++ [.top]) = if rootName ∈ names then c.handlers else [] := by
  -- the root does not propagate, and the others have no handlers
  induction names with
  | nil => rfl
  | cons name names ih =>
      rw [List.map_cons, List.cons_append, handlersAlong, hlook]
      by_cases h : name = rootName
      · subst h
        simp [Configuration.logger]
      · rw [if_neg h]
        show [] ++ handlersAlong (names.map look ++ [.top]) = _
        rw [List.nil_append, ih]
        simp [Ne.symm h]

end Lineage

/-! ## What is written -/

/-- A record belongs to a sink under a configuration: its level reaches the threshold, and the sink is
the stream, or it is the file, which was opened and can store the record. -/
def Configuration.Takes (c : Configuration) (x : Sink) (r : Record) : Prop :=
  (threshold c.verbose).rank ≤ r.level.rank ∧
    (x = .stream c.stream ∨ c.openFile.map Sink.file = some x ∧ r.isStorable = true)

instance (c : Configuration) (x : Sink) (r : Record) : Decidable (c.Takes x r) :=
  inferInstanceAs (Decidable (_ ∧ _))

/-- A record that is logged when the loggers of the given names are known is due to a sink. -/
def IsDue (c : Configuration) (known : List Text) (x : Sink) (r : Record) : Prop :=
  c.Takes x r ∧ IsBelowRoot (r.logger :: known) r.logger

instance (c : Configuration) (known : List Text) (x : Sink) (r : Record) :
    Decidable (IsDue c known x r) :=
  inferInstanceAs (Decidable (_ ∧ _))

theorem recordsIn_deliver (r : Record) (sinks : OrderedMap Sink (List Record)) (h : Handler)
    (x : Sink) :
    recordsIn (deliver r sinks h) x =
      recordsIn sinks x ++
        if x = h.sink ∧ h.level.rank ≤ r.level.rank ∧ x.accepts r then [r] else [] := by
  unfold recordsIn deliver
  by_cases hx : x = h.sink
  · subst hx
    split
    case isTrue hr => simp [hr]
    case isFalse hr => simp [hr]
  · have hstays : ∀ f, (sinks.alter h.sink f).get? x = sinks.get? x := fun f =>
      get?_alter_of_ne sinks f hx
    split
    case isTrue => simp [hstays, hx]
    case isFalse => simp [hx]

/-- The handlers of a configuration write a record once to each sink that it belongs to. -/
theorem recordsIn_handlers (c : Configuration) (r : Record) (sinks : OrderedMap Sink (List Record))
    (x : Sink) :
    recordsIn (c.handlers.foldl (deliver r) sinks) x =
      recordsIn sinks x ++ if c.Takes x r then [r] else [] := by
  unfold Configuration.handlers Configuration.fileHandler?
  -- the two handlers write to sinks of different kinds, so neither sees what the other has written
  cases hopen : c.openFile with
  | none =>
      show recordsIn (deliver r sinks c.streamHandler) x = _
      rw [recordsIn_deliver, Configuration.streamHandler]
      cases x with
      | stream n => simp [Configuration.Takes, hopen, Sink.accepts, and_comm]
      | file f => simp [Configuration.Takes, hopen]
  | some f =>
      show recordsIn (deliver r (deliver r sinks c.streamHandler) ⟨_, .file f⟩) x = _
      rw [recordsIn_deliver, recordsIn_deliver, Configuration.streamHandler]
      cases x with
      | stream n => simp [Configuration.Takes, hopen, Sink.accepts, and_comm]
      | file g =>
          by_cases hfile : g = f
          · subst hfile
            simp [Configuration.Takes, hopen, Sink.accepts]
          · simp [Configuration.Takes, hopen, hfile, Ne.symm hfile]

namespace State

theorem contents_openSink (s : State) (y x : Sink) : (s.openSink y).contents x = s.contents x := by
  unfold contents openSink recordsIn insertIfNew
  by_cases hx : x = y
  · subst hx
    rw [get?_alter_self]
    rfl
  · rw [get?_alter_of_ne _ _ hx]

theorem contents_configure (s : State) (c : Configuration) (x : Sink) :
    (s.configure c).2.contents x = s.contents x := by
  unfold configure
  cases c.openFile with
  | none => exact contents_openSink _ _ x
  | some f => exact (contents_openSink _ _ x).trans (contents_openSink _ _ x)

/-- Logging a record adds it once to each sink that it is due to, and changes no other. -/
theorem contents_log {c : Configuration} {known : List Text} {s : State}
    (h : s.Configured c known) (r : Record) (x : Sink) :
    (s.log r).contents x = s.contents x ++ if IsDue c known x r then [r] else [] := by
  have hknow := configured_know h r.logger
  have hnames : ancestors (s.know r.logger).loggers.keys r.logger =
      ancestors (r.logger :: known) r.logger := ancestors_congr hknow.known r.logger
  have hsinks : (s.know r.logger).sinks = s.sinks := rfl
  unfold log
  simp only [lineage, hnames, effectiveLevel_lineage hknow.logger,
    handlersAlong_lineage hknow.logger]
  by_cases hroot : rootName ∈ r.logger :: ancestors (r.logger :: known) r.logger
  · -- below the root the level and the handlers are those of the configuration
    simp only [if_pos hroot]
    split
    case isTrue hlevel =>
        show recordsIn (c.handlers.foldl (deliver r) s.sinks) x = recordsIn s.sinks x ++ _
        rw [recordsIn_handlers]
        simp [IsDue, IsBelowRoot, hroot]
    case isFalse hlevel =>
        have hdue : ¬ IsDue c known x r := fun hdue => hlevel hdue.1.1
        rw [if_neg hdue, List.append_nil]
        rfl
  · -- elsewhere there are no handlers on the way
    have hdue : ¬ IsDue c known x r := fun hdue => hroot hdue.2
    simp only [if_neg hroot]
    rw [if_neg hdue, List.append_nil]
    split
    case isTrue => rfl
    case isFalse => rfl

end State

/-! ## Runs -/

/-- The configuration behind an event. -/
def Event.configurationOr (c : Configuration) : Event → Configuration
  | configure new => new
  | log _ _ _ => c

/-- The last configuration of a run that starts under a given one. -/
def lastConfiguration (first : Configuration) (events : List Event) : Configuration :=
  events.foldl Event.configurationOr first

/-- The names of loggers behind an event. -/
def Event.namesWith (known : List Text) : Event → List Text
  | configure _ => known
  | log part _ _ => loggerName part :: known

/-- The names of loggers behind several events. -/
def knownNames (known : List Text) (events : List Event) : List Text :=
  events.foldl Event.namesWith known

theorem mem_knownNames {name : Text} {known : List Text} (h : name ∈ known) (events : List Event) :
    name ∈ knownNames known events := by
  induction events generalizing known with
  | nil => exact h
  | cons e events ih =>
      cases e with
      | configure c => exact ih h
      | log part level message => exact ih (List.mem_cons_of_mem _ h)

/-- The records that a run adds to a sink, in order: each is judged by the configuration and the loggers
of the moment when it is logged. -/
def delivered (x : Sink) : Configuration → List Text → List Event → List Record
  | _, _, [] => []
  | _, known, .configure new :: rest => delivered x new known rest
  | c, known, .log part level message :: rest =>
      (if IsDue c known x (recordOf part level message) then [recordOf part level message] else []) ++
        delivered x c (loggerName part :: known) rest

namespace State

theorem run_cons (s : State) (e : Event) (events : List Event) :
    s.run (e :: events) = (s.step e).run events := rfl

theorem run_concat (s : State) (events : List Event) (e : Event) :
    s.run (events ++ [e]) = (s.run events).step e := by
  simp [run]

/-- A run that starts under a configuration ends under the last one. -/
theorem configured_run {c : Configuration} {known : List Text} {s : State}
    (h : s.Configured c known) (hroot : rootName ∈ known) (events : List Event) :
    (s.run events).Configured (lastConfiguration c events) (knownNames known events) := by
  induction events generalizing s c known with
  | nil => exact h
  | cons e events ih =>
      rw [run_cons]
      cases e with
      | configure new => exact ih (configured_configure h hroot new) hroot
      | log part level message =>
          exact ih (configured_log h (recordOf part level message)) (List.mem_cons_of_mem _ hroot)

/-- A run adds to a sink the records that are due to it when they are logged. -/
theorem contents_run {c : Configuration} {known : List Text} {s : State}
    (h : s.Configured c known) (hroot : rootName ∈ known) (events : List Event) (x : Sink) :
    (s.run events).contents x = s.contents x ++ delivered x c known events := by
  induction events generalizing s c known with
  | nil => simp [run, delivered]
  | cons e events ih =>
      rw [run_cons]
      cases e with
      | configure new =>
          have hrest := ih (configured_configure h hroot new) hroot
          rw [contents_configure] at hrest
          exact hrest
      | log part level message =>
          have hrest := ih (configured_log h (recordOf part level message))
            (List.mem_cons_of_mem _ hroot)
          rw [contents_log h, List.append_assoc] at hrest
          exact hrest

end State

/-! ## Records of parts whose names do not begin with a dot -/

/-- The name of a part, if there is one, does not begin with a dot. -/
def IsPlain (part : Option Text) : Prop :=
  ∀ p, part = some p → p.head? ≠ some (.char '.')

/-- The logger of the record is not that of a part whose name begins with a dot. -/
def Record.isPlain (r : Record) : Bool :=
  !(rootName ++ "..").isPrefixOf r.logger

theorem isPlain_recordOf (part : Option Text) (level : Level) (message : Text) :
    (recordOf part level message).isPlain = true ↔ IsPlain part := by
  have hdots : Text.ofString ".." = [.char '.', .char '.'] := rfl
  rw [Record.isPlain, Bool.not_eq_true', ← Bool.not_eq_true, List.isPrefixOf_iff_prefix, hdots]
  show ¬ rootName ++ _ <+: loggerName part ↔ IsPlain part
  rcases part with - | - | ⟨c, p⟩
  · exact iff_of_true (by decide) fun _ h => by cases h
  · exact iff_of_true (by decide) fun _ h => by cases h; simp
  · have hlogger : loggerName (some (c :: p)) = rootName ++ .char '.' :: c :: p := by
      simp [loggerName, Text.ofString]
    rw [hlogger, List.prefix_append_right_inj]
    simp [IsPlain, eq_comm]

theorem isDue_iff_of_isPlain {c : Configuration} {known : List Text} (hroot : rootName ∈ known)
    {x : Sink} {part : Option Text} (hpart : IsPlain part) {level : Level} {message : Text} :
    IsDue c known x (recordOf part level message) ↔ c.Takes x (recordOf part level message) :=
  and_iff_left (isBelowRoot_loggerName (List.mem_cons_of_mem _ hroot) hpart)

/-- The records of such parts that belong to a sink in a run, in order: each is judged by the
configuration that is the last when it is logged. -/
def received (x : Sink) : Configuration → List Event → List Record
  | _, [] => []
  | _, .configure new :: rest => received x new rest
  | c, .log part level message :: rest =>
      (if (recordOf part level message).isPlain ∧ c.Takes x (recordOf part level message) then
        [recordOf part level message] else []) ++ received x c rest

/-- Of what a run adds to a sink, the records of such parts are those that belong there. -/
theorem filter_delivered (x : Sink) {c : Configuration} {known : List Text}
    (hroot : rootName ∈ known) (events : List Event) :
    (delivered x c known events).filter Record.isPlain = received x c events := by
  induction events generalizing c known with
  | nil => rfl
  | cons e events ih =>
      cases e with
      | configure new => exact ih hroot
      | log part level message =>
          rw [delivered, received, List.filter_append, ih (List.mem_cons_of_mem _ hroot)]
          congr 1
          by_cases hplain : IsPlain part
          · -- the logger stands below the root, so the record is due wherever it belongs
            have hrecord := (isPlain_recordOf part level message).2 hplain
            by_cases htakes : c.Takes x (recordOf part level message)
            · simp [isDue_iff_of_isPlain hroot hplain, htakes, hrecord]
            · simp [isDue_iff_of_isPlain hroot hplain, htakes]
          · -- whether it is due or not, the record is left out on both sides
            have hrecord : (recordOf part level message).isPlain = false :=
              Bool.eq_false_iff.2 (mt (isPlain_recordOf part level message).1 hplain)
            by_cases hdue : IsDue c known x (recordOf part level message)
            · simp [hdue, hrecord]
            · simp [hdue, hrecord]

/-- A log whose second file is given up for one that cannot be opened, and then for the first one
again. -/
def returningToFile : List Event :=
  [.log none .debug "1", .log (some "a..b") .info "2",
    .configure ⟨true, 1, some ⟨.parse "b.log", true⟩⟩, .log (some "c") .debug "3",
    .log (some "c") ⟨9⟩ "4", .configure ⟨true, 1, some ⟨.parse "d/c.log", false⟩⟩,
    .log (some "c") .debug "5", .configure ⟨false, 1, some ⟨.parse "a.log", true⟩⟩,
    .log none .debug "6", .log (some "c") ⟨25⟩ "7"]

end ComponentDocs.Log
