import TimestreamOdbc.Config.Configuration
import TimestreamOdbc.Lib.RightScan

/-!
# The connection string parser

`ConnectionStringParser` reads a connection string from its end: it looks for the last delimiter
and for the last `=` of the whole text that is left, takes the pair from behind the delimiter when
the `=` is behind it, and cuts the text in front of the delimiter.

This is the fold of `HandleAttributePair` over the segments between the delimiters, from the last
segment to the first.  What it assigns to an attribute depends on the text only and not on the
configuration it starts from: the value of the leftmost segment that gives a valid one.
-/

namespace TimestreamOdbc

open RightScan

/-- The attribute that a key in lower case names. -/
def Attr.ofKey (lKey : Text) : Option Attr := byKey.find? fun a => a.key = lKey

namespace ConnectionStringParser

/-- `MakeErrorMessage`. -/
def makeErrorMessage (msg : String) (key value : Text) : String :=
  msg ++ " [key='" ++ String.ofList key ++ "', value='" ++ String.ofList value ++ "']"

/-- The record for a value that is not taken over. -/
def optionValueChanged (message : String) : DiagnosticRecord :=
  statusRecord .s01S02OptionValueChanged message

/-- `sizeof(std::to_string(UINT32_MAX))`, the size of a string object. -/
def sizeofString : ℕ := 32

/-- `HandleAttributePair` on a numeric attribute: `label` names it in the messages and `minimum` is
the smallest value that is accepted. -/
def numberValue (label : String) (minimum : ℕ) (key value : Text) :
    Except (List DiagnosticRecord) Int32 :=
  if value = [] then
    .error [optionValueChanged (makeErrorMessage
      (label ++ " attribute value is empty. Using default value.") key value)]
  else if ¬ allDigits value then
    .error [optionValueChanged (makeErrorMessage
      (label ++ " attribute value contains unexpected characters. Using default value.") key value)]
  else if sizeofString ≤ value.length then
    .error [optionValueChanged (makeErrorMessage
      (label ++ " attribute value is too large. Using default value.") key value)]
  else if readInt64 value < minimum ∨ 4294967295 < readInt64 value then
    .error [optionValueChanged (makeErrorMessage
      (label ++ " attribute value is out of range. Using default value.") key value)]
  else .ok (Int32.ofNat (readInt64 value))

/-- `HandleAttributePair` on `auth`. -/
def authTypeValue (value : Text) : Except (List DiagnosticRecord) AuthType :=
  let authType := AuthType.fromString value .awsProfile
  if trim (toLower value) ≠ "aws_profile".toList ∧ authType = .awsProfile then
    .error [optionValueChanged
      "Specified AUTH is not supported. Default value used ('AWS_PROFILE')."]
  else .ok authType

/-- `HandleAttributePair` on `loglevel`. -/
def logLevelValue (value : Text) : Except (List DiagnosticRecord) LogLevel :=
  let level := LogLevel.fromString value .unknown
  if level = .unknown then
    .error [optionValueChanged "Specified Log Level is not supported. Default value used ('2')."]
  else .ok level

/-- The value that `HandleAttributePair` sets an attribute to, or the records it adds instead. -/
def acceptValue (isValidDirectory : Text → Bool) (key value : Text) :
    (a : Attr) → Except (List DiagnosticRecord) a.Value
  | .reqTimeout => numberValue "Request Timeout" 1 key value
  | .connectionTimeout => numberValue "Connection Timeout" 1 key value
  | .maxRetryCountClient => numberValue "Max Retry Count Client" 0 key value
  | .maxConnections => numberValue "Max Connections" 1 key value
  | .maxRowPerPage => numberValue "Max Row Per Page" 0 key value
  | .authType => authTypeValue value
  | .logLevel => logLevelValue value
  -- `SetLogPath` drops a path that is not a directory, without a record
  | .logPath => if isValidDirectory value then .ok value else .error []
  | .dsn | .driver | .uid | .pwd | .accessKeyId | .secretKey | .sessionToken | .profileName
  | .endpoint | .region | .idPHost | .idPUserName | .idPPassword | .idPArn | .oktaAppId
  | .roleArn | .aadAppId | .aadClientSecret | .aadTenant => .ok value

/-- The attributes for which writing over a value is reported, with their names. -/
def rewritingName : Attr → Option String
  | .idPUserName => some "IdPUserName"
  | .idPPassword => some "IdPPassword"
  | .aadClientSecret => some "AADClientSecret"
  | .uid => some "UID"
  | .pwd => some "PWD"
  | .accessKeyId => some "AccessKeyId"
  | .secretKey => some "SecretKey"
  | .sessionToken => some "SessionToken"
  | .dsn | .driver | .profileName | .reqTimeout | .connectionTimeout | .maxRetryCountClient
  | .maxConnections | .endpoint | .region | .authType | .idPHost | .idPArn | .oktaAppId | .roleArn
  | .aadAppId | .aadTenant | .logLevel | .logPath | .maxRowPerPage => none

/-- The record for writing over a value that is not empty. -/
def rewritingRecords (cfg : Configuration) (a : Attr) : List DiagnosticRecord :=
  match rewritingName a with
  | some name =>
    if (cfg.text a).getD [] ≠ [] then
      [optionValueChanged ("Re-writing " ++ name ++ " (have you specified it several times?")]
    else []
  | none => []

/-- `HandleAttributePair`: the configuration after it and the records it adds. -/
def handleAttributePair (isValidDirectory : Text → Bool) (key value : Text) (cfg : Configuration) :
    Configuration × List DiagnosticRecord :=
  match Attr.ofKey (toLower key) with
  | none =>
    (cfg, [optionValueChanged ("Unknown attribute: '" ++ String.ofList key ++ "'. Ignoring.")])
  | some a =>
    match acceptValue isValidDirectory key value a with
    | .ok v => (cfg.set a v, rewritingRecords cfg a)
    | .error records => (cfg, rewritingRecords cfg a ++ records)

/-- A value that starts and ends with a brace. -/
def InBraces (value : Text) : Prop := value.head? = some '{' ∧ value.getLast? = some '}'

instance : DecidablePred InBraces := fun _ => inferInstanceAs (Decidable (_ ∧ _))

/-- The value between a pair of braces, or the value itself. -/
def stripBraces (value : Text) : Text :=
  if InBraces value then (value.drop 1).take (value.length - 2) else value

/-- The body of the loop of `ParseConnectionString`: the pair of the text behind `attrBegin` is
handled if the last `=` of the text is there and not its first character. -/
def handleLast (isValidDirectory : Text → Bool) (connectStr : Text) (attrBegin : ℕ)
    (cfg : Configuration) : Configuration × List DiagnosticRecord :=
  let attrEqPos := (rfind '=' connectStr).getD 0
  if attrBegin < attrEqPos then
    let key := trim ((connectStr.drop attrBegin).take (attrEqPos - attrBegin))
    let value := trim (connectStr.drop (attrEqPos + 1))
    handleAttributePair isValidDirectory key (stripBraces value) cfg
  else (cfg, [])

/-- The loop of `ParseConnectionString`. -/
def parseLoop (isValidDirectory : Text → Bool) (delimiter : Char) (connectStr : Text)
    (cfg : Configuration) : Configuration × List DiagnosticRecord :=
  if connectStr = [] then (cfg, [])
  else
    match h : rfind delimiter connectStr with
    | none => handleLast isValidDirectory connectStr 0 cfg
    | some i =>
      let last := handleLast isValidDirectory connectStr (i + 1) cfg
      let rest := parseLoop isValidDirectory delimiter (connectStr.take i) last.1
      (rest.1, last.2 ++ rest.2)
termination_by connectStr.length
decreasing_by
  have := lt_length_of_rfind_eq_some h
  simp only [List.length_take]
  omega

/-- `ParseConnectionString` on a text with a delimiter: NUL characters at the end are dropped. -/
def parseAttributes (isValidDirectory : Text → Bool) (delimiter : Char) (str : Text)
    (cfg : Configuration) : Configuration × List DiagnosticRecord :=
  parseLoop isValidDirectory delimiter (str.rdropWhile fun c => c = '\x00') cfg

/-- `ParseConnectionString`: the configuration after it and the records it adds. -/
def parseConnectionString (isValidDirectory : Text → Bool) (str : Text) (cfg : Configuration) :
    Configuration × List DiagnosticRecord :=
  parseAttributes isValidDirectory ';' str cfg

/-! ## Segments -/

/-- The key and the value of a segment, if there is an `=` behind its first character. -/
def segmentPair (segment : Text) : Option (Text × Text) :=
  match rfind '=' segment with
  | none | some 0 => none
  | some (i + 1) =>
    some (trim (segment.take (i + 1)), stripBraces (trim (segment.drop (i + 2))))

/-- The pair of a key and a value with an `=` between them, when there is none in the value. -/
lemma segmentPair_append {key value : Text} (hne : key ≠ []) (h : '=' ∉ value) :
    segmentPair (key ++ '=' :: value) = some (trim key, stripBraces (trim value)) := by
  unfold segmentPair
  rw [rfind_append_cons _ h]
  cases hlen : key.length with
  | zero => exact absurd (List.eq_nil_of_length_eq_zero hlen) hne
  | succ n =>
    have htake : (key ++ '=' :: value).take (n + 1) = key := by
      rw [← hlen, List.take_left]
    have hdrop : (key ++ '=' :: value).drop (n + 2) = value := by
      have h := @List.drop_length_add_append Char key ('=' :: value) 1
      rw [hlen] at h
      exact h
    simp only [htake, hdrop]

/-- What the parser does with a segment. -/
def handleSegment (isValidDirectory : Text → Bool) (segment : Text) (cfg : Configuration) :
    Configuration × List DiagnosticRecord :=
  match segmentPair segment with
  | none => (cfg, [])
  | some (key, value) => handleAttributePair isValidDirectory key value cfg

/-- What the parser does with segments, from the last one to the first. -/
def handleSegments (isValidDirectory : Text → Bool) :
    List Text → Configuration → Configuration × List DiagnosticRecord
  | [], cfg => (cfg, [])
  | segment :: segments, cfg =>
    let rest := handleSegments isValidDirectory segments cfg
    let first := handleSegment isValidDirectory segment rest.1
    (first.1, rest.2 ++ first.2)

/-- The value that a segment gives to an attribute, if any. -/
def assigned (isValidDirectory : Text → Bool) (a : Attr) (segment : Text) : Option a.Value :=
  match segmentPair segment with
  | none => none
  | some (key, value) =>
    if Attr.ofKey (toLower key) = some a then
      (acceptValue isValidDirectory key value a).toOption
    else none

section Segments

variable {isValidDirectory : Text → Bool}

/-- Segments are handled one part after the other. -/
lemma handleSegments_append (l m : List Text) (cfg : Configuration) :
    handleSegments isValidDirectory (l ++ m) cfg =
      ((handleSegments isValidDirectory l (handleSegments isValidDirectory m cfg).1).1,
        (handleSegments isValidDirectory m cfg).2 ++
          (handleSegments isValidDirectory l (handleSegments isValidDirectory m cfg).1).2) := by
  induction l with
  | nil => simp [handleSegments]
  | cons segment l ih =>
    rw [List.cons_append, handleSegments, ih]
    simp [handleSegments, List.append_assoc]

variable (isValidDirectory) in
/-- The body of the loop handles the segment behind the position it is given. -/
lemma handleLast_eq (pre segment : Text) (cfg : Configuration) :
    handleLast isValidDirectory (pre ++ segment) pre.length cfg =
      handleSegment isValidDirectory segment cfg := by
  unfold handleLast handleSegment segmentPair
  rw [rfind_append]
  cases hseg : rfind '=' segment with
  | none =>
    have hle : ¬ pre.length < (rfind '=' pre).getD 0 := by
      cases hpre : rfind '=' pre with
      | none => simp
      | some j =>
        have := lt_length_of_rfind_eq_some hpre
        simp only [Option.getD_some]
        omega
    simp [hle]
  | some j =>
    cases j with
    | zero => simp
    | succ i =>
      have hlt : pre.length < i + 1 + pre.length := by omega
      have htake : i + 1 + pre.length - pre.length = i + 1 := by omega
      have hdrop : i + 1 + pre.length + 1 = pre.length + (i + 2) := by omega
      simp only [Option.map_some, Option.some_or, Option.getD_some, if_pos hlt, htake, hdrop,
        List.drop_left, List.drop_length_add_append]

/-- `ParseConnectionString` is the fold of what it does with a segment over the segments, from the
last one to the first. -/
theorem parseLoop_eq {delimiter : Char} (str : Text) (cfg : Configuration) :
    parseLoop isValidDirectory delimiter str cfg =
      handleSegments isValidDirectory (str.splitOn delimiter) cfg := by
  induction hn : str.length using Nat.strong_induction_on generalizing str cfg with
  | _ n ih =>
  unfold parseLoop
  by_cases hnil : str = []
  · rw [if_pos hnil, hnil]
    rfl
  · rw [if_neg hnil, splitOn_eq]
    split
    · next hnone =>
      simp only [hnone]
      have hlast := handleLast_eq isValidDirectory [] str cfg
      rw [List.nil_append, List.length_nil] at hlast
      simp [hlast, handleSegments]
    · next i hsome =>
      simp only [hsome]
      have hlt := lt_length_of_rfind_eq_some hsome
      have hlast := handleLast_eq isValidDirectory (str.take (i + 1))
        (str.drop (i + 1)) cfg
      rw [List.take_append_drop, List.length_take, Nat.min_eq_left hlt] at hlast
      rw [hlast, ih _ (by rw [List.length_take]; omega) _ _ rfl, handleSegments_append]
      simp [handleSegments]

/-- What a pair changes is one attribute, and only if its value is accepted. -/
lemma handleSegment_apply (segment : Text) (cfg : Configuration) (a : Attr) :
    (handleSegment isValidDirectory segment cfg).1 a =
      (assigned isValidDirectory a segment).or (cfg a) := by
  unfold handleSegment assigned
  cases segmentPair segment with
  | none => rfl
  | some pair =>
    obtain ⟨key, value⟩ := pair
    dsimp only
    unfold handleAttributePair
    cases hkey : Attr.ofKey (toLower key) with
    | none => simp
    | some b =>
      by_cases hb : b = a
      · subst hb
        cases hv : acceptValue isValidDirectory key value b with
        | ok v => simp [hv, Except.toOption]
        | error records => simp [hv, Except.toOption]
      · have hne : ¬ some b = some a := fun h => hb (Option.some.inj h)
        rw [if_neg hne, Option.none_or]
        cases hv : acceptValue isValidDirectory key value b with
        | ok v => simpa [hv] using cfg.set_of_ne v (Ne.symm hb)
        | error records => simp [hv]

/-- The value of an attribute is that of the leftmost segment that gives a valid one, and the
value before if there is none. -/
theorem handleSegments_apply (segments : List Text) (cfg : Configuration) (a : Attr) :
    (handleSegments isValidDirectory segments cfg).1 a =
      (segments.findSome? (assigned isValidDirectory a)).or (cfg a) := by
  induction segments with
  | nil => rfl
  | cons segment segments ih =>
    rw [handleSegments, handleSegment_apply, ih, List.findSome?_cons]
    cases assigned isValidDirectory a segment <;> rfl

end Segments

end ConnectionStringParser

end TimestreamOdbc
