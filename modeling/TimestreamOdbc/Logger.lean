import TimestreamOdbc.Config.Configuration
import TimestreamOdbc.Lib.RightScan
import TimestreamOdbc.Lib.TransitionSystem

/-!
# The log

`Logger`: the level, the directory and the file of the log, and where messages go.  The file is opened
with the first message that is to be written, under a name with the day, and stays open.

`SetLogPath` closes the file only where messages are written at the time; otherwise the file that was
opened, or is to be opened, stays the one in the directory before.  What is put in front of a message, the
thread, the time and the place in the source, is left out.
-/

namespace TimestreamOdbc

open TransitionSystem

/-! ## Surroundings -/

/-- `Fs`: the separator of a platform. -/
abbrev Separator := { c : Char // c = '/' ∨ c = '\\' }

/-- What an operation finds outside of the log: the date as `strftime` writes it, the directories that are
there, and the files that can be opened. -/
structure LogMoment where
  day : Text
  digits : ∀ c ∈ day, c.isDigit = true
  isValidDirectory : Text → Bool
  canOpen : Text → Bool

/-- The number of a level. -/
def LogLevel.toNat : LogLevel → ℕ
  | .off => 0
  | .errorLevel => 1
  | .warningLevel => 2
  | .infoLevel => 3
  | .debugLevel => 4
  | .unknown => 5

/-- The levels of messages. -/
inductive MessageLevel where
  | errorMsg
  | warningMsg
  | infoMsg
  | debugMsg
  deriving DecidableEq, Repr

/-- The level that a message needs. -/
def MessageLevel.logLevel : MessageLevel → LogLevel
  | .errorMsg => .errorLevel
  | .warningMsg => .warningLevel
  | .infoMsg => .infoLevel
  | .debugMsg => .debugLevel

/-- A stream that messages are written to: the file of the log, or another one. -/
inductive LogStream (σ : Type) where
  | fileStream
  | other (s : σ)
  deriving DecidableEq, Repr

/-- Where a message was written: to a file, or to another stream. -/
inductive LogTarget (σ : Type) where
  | file (path : Text)
  | other (s : σ)
  deriving DecidableEq, Repr

/-- `Logger`. The file stream is known by the path of the file that is open, and what was written is kept
in its order. -/
structure Logger (σ : Type) where
  fileStream : Option Text
  stream : Option (LogStream σ)
  logPath : Text
  logLevel : LogLevel
  logFileName : Text
  logFilePath : Text
  written : List (LogTarget σ × Text)

namespace Logger

variable {σ : Type}

/-! ## Operations -/

/-- A new logger, with the default directory. -/
def new (defaultLogPath : Text) : Logger σ :=
  { fileStream := none, stream := none, logPath := defaultLogPath, logLevel := .warningLevel
    logFileName := [], logFilePath := [], written := [] }

/-- What the name of a file starts with. -/
def fileNameStart : Text := "timestream_odbc_".toList

/-- What the name of a file ends with. -/
def fileNameEnd : Text := ".log".toList

/-- `CreateFileName`. -/
def createFileName (moment : LogMoment) : Text := fileNameStart ++ moment.day ++ fileNameEnd

/-- `IsEnabled`. -/
def isEnabled (l : Logger σ) : Bool :=
  match l.stream with
  | none => false
  | some .fileStream => l.fileStream.isSome
  | some (.other _) => true

/-- `SetLogStream`. -/
def setLogStream (stream : Option (LogStream σ)) (l : Logger σ) : Logger σ := { l with stream := stream }

/-- The name of the file is made once. -/
def nameFile (fs : Separator) (moment : LogMoment) (l : Logger σ) : Logger σ :=
  if l.logFileName = [] then
    { l with
      logFileName := createFileName moment
      logFilePath := l.logPath ++ fs.val :: createFileName moment }
  else l

/-- `std::ofstream::open`. -/
def openFile (moment : LogMoment) (l : Logger σ) : Logger σ :=
  { l with fileStream := if moment.canOpen l.logFilePath then some l.logFilePath else none }

/-- `EnableLog`; what it returns is `IsEnabled`. -/
def enableLog (fs : Separator) (moment : LogMoment) (l : Logger σ) : Logger σ :=
  let l := if l.stream.isNone then l.setLogStream (some .fileStream) else l
  match l.stream with
  | some .fileStream =>
    if !l.isEnabled && decide (l.logLevel ≠ .off) then (l.nameFile fs moment).openFile moment else l
  | _ => l

/-- `WriteMessage`. -/
def writeMessage (message : Text) (l : Logger σ) : Logger σ :=
  match l.stream, l.fileStream with
  | some .fileStream, some path => { l with written := l.written ++ [(.file path, message)] }
  | some (.other s), _ => { l with written := l.written ++ [(.other s, message)] }
  | _, _ => l

/-- `WRITE_MSG_TO_STREAM`: a stream that is given takes the place of the log's one for the message. -/
def log (fs : Separator) (moment : LogMoment) (level : MessageLevel) (message : Text)
    (logStream : Option σ) (l : Logger σ) : Logger σ :=
  if level.logLevel.toNat ≤ l.logLevel.toNat then
    let l := if l.isEnabled then l else l.enableLog fs moment
    if l.isEnabled then
      match logStream with
      | none => l.writeMessage message
      | some s => ((l.setLogStream (some (.other s))).writeMessage message).setLogStream l.stream
    else l
  else l

/-- `SetLogLevel`. -/
def setLogLevel (level : LogLevel) (l : Logger σ) : Logger σ := { l with logLevel := level }

/-- The file is closed, and its name is given up. -/
def closeFile (l : Logger σ) : Logger σ := { l with fileStream := none, logFileName := [] }

/-- `SetLogPath`. -/
def setLogPath (fs : Separator) (moment : LogMoment) (path : Text) (l : Logger σ) : Logger σ :=
  if l.logPath = path then
    l.log fs moment .debugMsg ("WARNING: SetLogPath is called with the existing path string. " ++
      "SetLogPath should only be called once in normal circumstances aside from testing.").toList none
  else if !moment.isValidDirectory path then l
  else
    let oldLogFilePath := l.logFilePath
    let l := { l with logPath := path }
    let l :=
      if l.isEnabled && decide (l.logLevel ≠ .off) then
        let l := l.log fs moment .infoMsg ("Reset log path: Log path is changed to ".toList ++ l.logPath ++
          ". Log file is in format timestream_odbc_YYYYMMDD.log".toList) none
        l.closeFile.log fs moment .infoMsg
          ("Previously logged information is stored in log file ".toList ++ oldLogFilePath) none
      else l
    l.setLogStream (some .fileStream)

/-- An operation on the log. -/
inductive Operation (σ : Type) where
  | log (moment : LogMoment) (level : MessageLevel) (message : Text) (logStream : Option σ)
  | setLogLevel (level : LogLevel)
  | setLogPath (moment : LogMoment) (path : Text)

/-- The log after an operation. -/
def perform (fs : Separator) (l : Logger σ) : Operation σ → Option (Logger σ)
  | .log moment level message logStream => some (l.log fs moment level message logStream)
  | .setLogLevel level => some (l.setLogLevel level)
  | .setLogPath moment path => some (l.setLogPath fs moment path)

/-! ## Where messages go -/

/-- The file that a message is to be written to. -/
def nextFile (fs : Separator) (moment : LogMoment) (l : Logger σ) : Text :=
  match l.fileStream with
  | some path => path
  | none => if l.logFileName = [] then l.logPath ++ fs.val :: createFileName moment else l.logFilePath

/-- The file that a message is to be written to is in the directory that `GetLogPath` gives. -/
def InPath (fs : Separator) (l : Logger σ) : Prop :=
  ∀ moment, ∃ name, fs.val ∉ name ∧ l.nextFile fs moment = l.logPath ++ fs.val :: name

/-- A directory takes effect: it is the one that is set or not there, or no file has a name, or messages
are written. -/
def TakesEffect (l : Logger σ) : Operation σ → Prop
  | .setLogPath moment path =>
    l.logPath = path ∨ moment.isValidDirectory path = false ∨ l.logFileName = [] ∨
      l.isEnabled = true ∧ l.logLevel ≠ .off
  | .log .. | .setLogLevel _ => True

/-- Where a message goes, if anywhere: to the file, or to the stream that is given, but only where the file
is open or can be opened. -/
def target (fs : Separator) (moment : LogMoment) (level : MessageLevel) (logStream : Option σ)
    (l : Logger σ) : Option (LogTarget σ) :=
  if level.logLevel.toNat ≤ l.logLevel.toNat ∧
      (l.fileStream.isSome ∨ moment.canOpen (l.nextFile fs moment)) then
    some (match logStream with
      | none => .file (l.nextFile fs moment)
      | some s => .other s)
  else none

/-! ## What every operation keeps -/

section Regular

variable {fs : Separator} {l : Logger σ} {moment : LogMoment}

/-- A file that is open has a name; it has the name in some directory. -/
structure Regular (fs : Separator) (l : Logger σ) : Prop where
  stream : l.stream = some .fileStream ∨ l.stream = none ∧ l.fileStream = none
  opened : ∀ path, l.fileStream = some path → path = l.logFilePath ∧ l.logFileName ≠ []
  named : l.logFileName ≠ [] → fs.val ∉ l.logFileName ∧ ∃ dir, l.logFilePath = dir ++ fs.val :: l.logFileName

/-- A new log is regular. -/
lemma regular_new (fs : Separator) (defaultLogPath : Text) : (new defaultLogPath : Logger σ).Regular fs :=
  ⟨.inr ⟨rfl, rfl⟩, nofun, fun h => absurd rfl h⟩

/-- The name of a file has no separator. -/
lemma notMem_createFileName (fs : Separator) (moment : LogMoment) : fs.val ∉ createFileName moment := by
  obtain ⟨c, hc⟩ := fs
  have hfixed : c.isDigit = false ∧ c ∉ fileNameStart ∧ c ∉ fileNameEnd := by
    rcases hc with rfl | rfl <;> decide
  unfold createFileName
  intro h
  rcases List.mem_append.mp h with h | h
  · rcases List.mem_append.mp h with h | h
    · exact hfixed.2.1 h
    · exact absurd (moment.digits _ h) (by simp [hfixed.1])
  · exact hfixed.2.2 h

/-- A name is not empty. -/
lemma createFileName_ne_nil (moment : LogMoment) : createFileName moment ≠ [] := by
  unfold createFileName
  exact List.append_ne_nil_of_right_ne_nil _ (by decide)

/-- A regular log is enabled when its file is open. -/
lemma Regular.isEnabled_eq (h : l.Regular fs) : l.isEnabled = l.fileStream.isSome := by
  unfold isEnabled
  rcases h.stream with hstream | ⟨hstream, hfile⟩
  · rw [hstream]
  · rw [hstream, hfile]
    rfl

/-- What `EnableLog` makes of a log whose file is not open. -/
lemma Regular.enableLog_eq (h : l.Regular fs) (hfile : l.fileStream = none) (hlevel : l.logLevel ≠ .off) :
    l.enableLog fs moment = { l with
      stream := some .fileStream
      logFileName := if l.logFileName = [] then createFileName moment else l.logFileName
      logFilePath := l.nextFile fs moment
      fileStream := if moment.canOpen (l.nextFile fs moment) then some (l.nextFile fs moment) else none } := by
  have hstream : (if l.stream.isNone then l.setLogStream (some .fileStream) else l) =
      l.setLogStream (some .fileStream) := by
    rcases h.stream with hstream | ⟨hstream, -⟩
    · rw [hstream, if_neg (by simp), setLogStream, ← hstream]
    · rw [hstream, if_pos (by simp)]
  unfold enableLog
  rw [hstream]
  have hdisabled : (l.setLogStream (some .fileStream)).isEnabled = false := by
    simp [isEnabled, setLogStream, hfile]
  dsimp only [setLogStream] at hdisabled ⊢
  rw [hdisabled, if_pos (by simp [hlevel]), nextFile, hfile]
  unfold nameFile openFile
  by_cases hname : l.logFileName = []
  · simp [hname]
  · simp [hname]

/-- A level that a message needs is not off. -/
lemma logLevel_ne_off {level : MessageLevel} (h : level.logLevel.toNat ≤ l.logLevel.toNat) :
    l.logLevel ≠ .off := by
  intro hoff
  rw [hoff] at h
  cases level <;> exact absurd h (by decide)

/-- The file has the name that it had, or got one in the directory. -/
def NamesFile (fs : Separator) (l l' : Logger σ) : Prop :=
  l'.logFileName = l.logFileName ∧ l'.logFilePath = l.logFilePath ∨
    l.logFileName = [] ∧ l'.logFilePath = l.logPath ++ fs.val :: l'.logFileName

/-- In a regular log a file without a name is to be in the directory. -/
lemma Regular.nextFile_of_eq_nil (h : l.Regular fs) (hname : l.logFileName = []) :
    l.nextFile fs moment = l.logPath ++ fs.val :: createFileName moment := by
  rw [nextFile]
  cases hfile : l.fileStream with
  | none => exact if_pos hname
  | some path => exact absurd hname (h.opened path hfile).2

/-- In a regular log a file with a name is the one that messages are to be written to. -/
lemma Regular.nextFile_of_ne_nil (h : l.Regular fs) (hname : l.logFileName ≠ []) :
    l.nextFile fs moment = l.logFilePath := by
  rw [nextFile]
  cases hfile : l.fileStream with
  | none => exact if_neg hname
  | some path => exact (h.opened path hfile).1

/-- Before a message is written, the file is opened if it can be. -/
lemma Regular.enabled (h : l.Regular fs) (moment : LogMoment) (hlevel : l.logLevel ≠ .off) :
    ∃ l' : Logger σ, (if l.isEnabled then l else l.enableLog fs moment) = l' ∧ l'.Regular fs ∧
      l'.stream = some .fileStream ∧ l'.logPath = l.logPath ∧ l'.logLevel = l.logLevel ∧
      l'.written = l.written ∧ NamesFile fs l l' ∧
      l'.fileStream =
        if l.fileStream.isSome ∨ moment.canOpen (l.nextFile fs moment) then some (l.nextFile fs moment)
        else none := by
  rw [h.isEnabled_eq]
  cases hfile : l.fileStream with
  | some path =>
    obtain ⟨rfl, hname⟩ := h.opened path hfile
    have hstream : l.stream = some .fileStream := by
      rcases h.stream with hstream | ⟨-, hnone⟩
      · exact hstream
      · rw [hfile] at hnone
        cases hnone
    refine ⟨l, rfl, h, hstream, rfl, rfl, rfl, .inl ⟨rfl, rfl⟩, ?_⟩
    rw [hfile, h.nextFile_of_ne_nil hname, if_pos (.inl rfl)]
  | none =>
    refine ⟨_, rfl, ?_⟩
    rw [if_neg (by simp), h.enableLog_eq hfile hlevel]
    by_cases hname : l.logFileName = []
    · rw [if_pos hname, h.nextFile_of_eq_nil hname]
      refine ⟨⟨.inl rfl, fun path hpath => ⟨?_, createFileName_ne_nil moment⟩, fun _ => ?_⟩, rfl, rfl, rfl,
        rfl, .inr ⟨hname, rfl⟩, by simp⟩
      · dsimp only at hpath
        split at hpath
        · exact (Option.some.inj hpath).symm
        · cases hpath
      · exact ⟨notMem_createFileName fs moment, l.logPath, rfl⟩
    · rw [if_neg hname, h.nextFile_of_ne_nil hname]
      refine ⟨⟨.inl rfl, fun path hpath => ⟨?_, hname⟩, fun _ => h.named hname⟩, rfl, rfl, rfl,
        rfl, .inl ⟨rfl, rfl⟩, by simp⟩
      dsimp only at hpath
      split at hpath
      · exact (Option.some.inj hpath).symm
      · cases hpath

/-- A message keeps a log regular, in its directory and at its level, and is written where it is to go. -/
lemma Regular.log_spec (h : l.Regular fs) (moment : LogMoment) (level : MessageLevel) (message : Text)
    (logStream : Option σ) :
    (l.log fs moment level message logStream).Regular fs ∧
      (l.log fs moment level message logStream).logPath = l.logPath ∧
      (l.log fs moment level message logStream).logLevel = l.logLevel ∧
      NamesFile fs l (l.log fs moment level message logStream) ∧
      (l.log fs moment level message logStream).written =
        l.written ++ (l.target fs moment level logStream).toList.map fun t => (t, message) := by
  by_cases hlevel : level.logLevel.toNat ≤ l.logLevel.toNat
  case neg =>
    have hsame : l.log fs moment level message logStream = l := if_neg hlevel
    have htarget : l.target fs moment level logStream = none := if_neg fun h => hlevel h.1
    rw [hsame, htarget]
    exact ⟨h, rfl, rfl, .inl ⟨rfl, rfl⟩, (List.append_nil _).symm⟩
  obtain ⟨l', hl', hregular, hstream, hpath, hlevel', hwritten, hnames, hfile⟩ :=
    h.enabled moment (logLevel_ne_off hlevel)
  have hlog : l.log fs moment level message logStream =
      if l'.isEnabled then match logStream with
        | none => l'.writeMessage message
        | some s => ((l'.setLogStream (some (.other s))).writeMessage message).setLogStream l'.stream
      else l' := by
    unfold log
    rw [if_pos hlevel, hl']
  rw [hregular.isEnabled_eq] at hlog
  by_cases hopen : l.fileStream.isSome ∨ moment.canOpen (l.nextFile fs moment)
  case neg =>
    have htarget : l.target fs moment level logStream = none := if_neg fun h => hopen h.2
    rw [if_neg hopen] at hfile
    rw [hlog, hfile, htarget]
    exact ⟨hregular, hpath, hlevel', hnames, by simpa using hwritten⟩
  rw [if_pos hopen] at hfile
  rw [if_pos (by rw [hfile]; rfl)] at hlog
  rw [hlog, ← hwritten]
  cases logStream with
  | none =>
    have htarget : l.target fs moment level none = some (.file (l.nextFile fs moment)) :=
      if_pos ⟨hlevel, hopen⟩
    have hwrite : l'.writeMessage message =
        { l' with written := l'.written ++ [(.file (l.nextFile fs moment), message)] } := by
      unfold writeMessage
      rw [hstream, hfile]
    rw [htarget, hwrite]
    exact ⟨⟨hregular.stream, hregular.opened, hregular.named⟩, hpath, hlevel', hnames, rfl⟩
  | some s =>
    have htarget : l.target fs moment level (some s) = some (.other s) := if_pos ⟨hlevel, hopen⟩
    rw [htarget]
    exact ⟨⟨hregular.stream, hregular.opened, hregular.named⟩, hpath, hlevel', hnames, rfl⟩

/-- In a regular log the file is in the directory if it has no name, or has it there. -/
lemma Regular.inPath_iff (h : l.Regular fs) :
    l.InPath fs ↔ (l.logFileName ≠ [] → l.logFilePath = l.logPath ++ fs.val :: l.logFileName) := by
  constructor
  · intro hin hname
    obtain ⟨hmem, dir, hdir⟩ := h.named hname
    obtain ⟨name, hmem', hnext⟩ := hin ⟨[], nofun, fun _ => false, fun _ => false⟩
    have hpath : l.logFilePath = l.logPath ++ fs.val :: name := by
      rw [← hnext, h.nextFile_of_ne_nil hname]
    -- Both names come after the last separator.
    have hlength : some dir.length = some l.logPath.length := by
      rw [← RightScan.rfind_append_cons dir hmem, ← RightScan.rfind_append_cons l.logPath hmem', ← hdir, hpath]
    rw [hdir] at hpath ⊢
    rw [(List.append_inj hpath (Option.some.inj hlength)).1]
  · intro hpath moment
    by_cases hname : l.logFileName = []
    · exact ⟨_, notMem_createFileName fs moment, h.nextFile_of_eq_nil hname⟩
    · exact ⟨l.logFileName, (h.named hname).1, by rw [h.nextFile_of_ne_nil hname, hpath hname]⟩

/-- A message leaves the file in the directory, or out of it. -/
lemma Regular.inPath_log_iff (h : l.Regular fs) (level : MessageLevel) (message : Text) (logStream : Option σ) :
    (l.log fs moment level message logStream).InPath fs ↔ l.InPath fs := by
  obtain ⟨hregular, hpath, -, hnames, -⟩ := h.log_spec moment level message logStream
  rw [hregular.inPath_iff, h.inPath_iff, hpath]
  rcases hnames with ⟨hname, hfile⟩ | ⟨hname, hfile⟩
  · rw [hname, hfile]
  · exact iff_of_true (fun _ => hfile) fun hne => absurd hname hne

/-- Closing the file keeps a log regular. -/
lemma Regular.closeFile (h : l.Regular fs) : l.closeFile.Regular fs :=
  ⟨h.stream.imp_right fun hnone => ⟨hnone.1, rfl⟩, nofun, fun hname => absurd rfl hname⟩

/-- A log whose file was closed is in its directory. -/
lemma Regular.inPath_closeFile (h : l.Regular fs) : l.closeFile.InPath fs :=
  h.closeFile.inPath_iff.mpr fun hname => absurd rfl hname

/-- The file of the log as the stream keeps a log regular. -/
lemma Regular.setLogStream (h : l.Regular fs) : (l.setLogStream (some .fileStream)).Regular fs :=
  ⟨.inl rfl, h.opened, h.named⟩

/-- Another directory keeps a log regular. -/
lemma Regular.withPath (h : l.Regular fs) (path : Text) : { l with logPath := path }.Regular fs :=
  ⟨h.stream, h.opened, h.named⟩

/-- A directory that is set keeps a log regular. The file stays in the directory if and only if the new one
takes effect. -/
lemma Regular.setLogPath_spec (h : l.Regular fs) (path : Text) :
    (l.setLogPath fs moment path).Regular fs ∧
      (l.InPath fs → ((l.setLogPath fs moment path).InPath fs ↔ l.TakesEffect (.setLogPath moment path))) := by
  unfold setLogPath
  by_cases hsame : l.logPath = path
  · rw [if_pos hsame]
    exact ⟨(h.log_spec moment _ _ _).1, fun hin => iff_of_true ((h.inPath_log_iff _ _ _).mpr hin) (.inl hsame)⟩
  rw [if_neg hsame]
  by_cases hvalid : moment.isValidDirectory path = true
  case neg =>
    rw [if_pos (by simpa using hvalid)]
    exact ⟨h, fun hin => iff_of_true hin (.inr (.inl (by simpa using hvalid)))⟩
  rw [if_neg (by simpa using hvalid)]
  by_cases hwrites : l.isEnabled = true ∧ l.logLevel ≠ .off
  · -- The file is closed, and the next one is named in the new directory.
    have hcond : ({ l with logPath := path }.isEnabled && decide (l.logLevel ≠ .off)) = true := by
      simpa [isEnabled] using hwrites
    dsimp only
    rw [if_pos hcond]
    have hclosed := ((h.withPath path).log_spec moment .infoMsg
      ("Reset log path: Log path is changed to ".toList ++ path ++
        ". Log file is in format timestream_odbc_YYYYMMDD.log".toList) none).1
    have hopened := hclosed.closeFile.log_spec moment .infoMsg
      ("Previously logged information is stored in log file ".toList ++ l.logFilePath) none
    refine ⟨hopened.1.setLogStream, fun _ => iff_of_true ?_ (.inr (.inr (.inr hwrites)))⟩
    exact (hclosed.closeFile.inPath_log_iff _ _ _).mpr hclosed.inPath_closeFile
  · have hcond : ¬ ({ l with logPath := path }.isEnabled && decide (l.logLevel ≠ .off)) = true := by
      simpa [isEnabled] using hwrites
    dsimp only
    rw [if_neg hcond]
    refine ⟨(h.withPath path).setLogStream, fun hin => ?_⟩
    rw [(h.withPath path).setLogStream.inPath_iff]
    have hfile := h.inPath_iff.mp hin
    have hvalid' : ¬ moment.isValidDirectory path = false := by simpa using hvalid
    rw [TakesEffect, or_iff_right hsame, or_iff_right hvalid', or_iff_left hwrites]
    constructor
    · intro hnew
      by_contra hname
      exact hsame (List.append_cancel_right ((hfile hname).symm.trans (hnew hname)))
    · exact fun hname hne => absurd hname hne

end Regular

/-! ## Runs -/

section Runs

variable {fs : Separator} {l l' : Logger σ} {op : Operation σ}

/-- Every operation keeps a log regular. -/
lemma Regular.perform (h : l.Regular fs) (hop : l.perform fs op = some l') : l'.Regular fs := by
  cases op with
  | log moment level message logStream =>
    obtain rfl := Option.some.inj hop
    exact (h.log_spec moment level message logStream).1
  | setLogLevel level =>
    obtain rfl := Option.some.inj hop
    exact ⟨h.stream, h.opened, h.named⟩
  | setLogPath moment path =>
    obtain rfl := Option.some.inj hop
    exact (h.setLogPath_spec path).1

/-- An operation leaves the file in the directory exactly if a directory that it sets takes effect. -/
lemma Regular.inPath_perform_iff (h : l.Regular fs) (hin : l.InPath fs) (hop : l.perform fs op = some l') :
    l'.InPath fs ↔ l.TakesEffect op := by
  cases op with
  | log moment level message logStream =>
    obtain rfl := Option.some.inj hop
    exact iff_of_true ((h.inPath_log_iff level message logStream).mpr hin) trivial
  | setLogLevel level =>
    obtain rfl := Option.some.inj hop
    exact iff_of_true hin trivial
  | setLogPath moment path =>
    obtain rfl := Option.some.inj hop
    exact (h.setLogPath_spec path).2 hin

/-- Whatever is logged and set in whatever order, a message goes to the file, or to the stream that it is
given, exactly if its level is reached and the file is open or can be opened, and then once, after those
before it. The file is in the directory that `GetLogPath` gives, all the time, if and only if every directory
took effect when it was set. -/
theorem staysInPath_iff (fs : Separator) (defaultLogPath : Text) (operations : List (Operation σ)) :
    ((∀ before, before <+: operations → ∀ l : Logger σ,
        run (Logger.perform fs) (new defaultLogPath) before = some l → l.InPath fs) ↔
      Meets TakesEffect (Logger.perform fs) (new defaultLogPath) operations) ∧
    ∀ l : Logger σ, run (Logger.perform fs) (new defaultLogPath) operations = some l →
      ∀ moment level message logStream, (l.log fs moment level message logStream).written =
        l.written ++ (l.target fs moment level logStream).toList.map fun t => (t, message) := by
  have hnew := regular_new (σ := σ) fs defaultLogPath
  constructor
  · refine forall_prefix_iff_meets (J := Regular fs) (fun l op => ?_) (fun l op l' h => h.perform)
      (fun l op l' h => h.inPath_perform_iff) hnew (hnew.inPath_iff.mpr fun hname => absurd rfl hname) operations
    cases op <;> exact ⟨_, rfl⟩
  · intro l hrun moment level message logStream
    have hregular : l.Regular fs := invariant_run (fun l op l' h => h.perform) hnew hrun
    exact (hregular.log_spec moment level message logStream).2.2.2.2

end Runs

end Logger

end TimestreamOdbc
