import UniMrcp.Mrcp.StartLine

/-!
# MRCP resources

The string tables of `mrcp/resources/src/*_resource.c` and `*_header.c`, and
the resource lookup of `mrcp/control/src/mrcp_resource_factory.c`.  A factory
is the list of the resources that were loaded into it, each under its own
name.
-/

namespace UniMrcp.Mrcp

open UniMrcp.Lib UniMrcp.Apt

/-! ## Methods -/

def synthMethodStringTable : List StrTableItem :=
  [strTableItem "SET-PARAMS" 10,
   strTableItem "GET-PARAMS" 0,
   strTableItem "SPEAK" 1,
   strTableItem "STOP" 1,
   strTableItem "PAUSE" 0,
   strTableItem "RESUME" 0,
   strTableItem "BARGE-IN-OCCURRED" 0,
   strTableItem "CONTROL" 0,
   strTableItem "DEFINE-LEXICON" 0]

def v1RecogMethodStringTable : List StrTableItem :=
  [strTableItem "SET-PARAMS" 10,
   strTableItem "GET-PARAMS" 10,
   strTableItem "DEFINE-GRAMMAR" 2,
   strTableItem "RECOGNIZE" 7,
   strTableItem "INTERPRET" 0,
   strTableItem "GET-RESULT" 6,
   strTableItem "RECOGNITION-START-TIMERS" 7,
   strTableItem "STOP" 2,
   strTableItem "START-PHRASE-ENROLLMENT" 2,
   strTableItem "ENROLLMENT-ROLLBACK" 2,
   strTableItem "END-PHRASE-ENROLLMENT" 5,
   strTableItem "MODIFY-PHRASE" 0,
   strTableItem "DELETE-PHRASE" 2]

def v2RecogMethodStringTable : List StrTableItem :=
  [strTableItem "SET-PARAMS" 10,
   strTableItem "GET-PARAMS" 10,
   strTableItem "DEFINE-GRAMMAR" 2,
   strTableItem "RECOGNIZE" 0,
   strTableItem "INTERPRET" 0,
   strTableItem "GET-RESULT" 6,
   strTableItem "START-INPUT-TIMERS" 7,
   strTableItem "STOP" 2,
   strTableItem "START-PHRASE-ENROLLMENT" 6,
   strTableItem "ENROLLMENT-ROLLBACK" 2,
   strTableItem "END-PHRASE-ENROLLMENT" 5,
   strTableItem "MODIFY-PHRASE" 0,
   strTableItem "DELETE-PHRASE" 2]

def recorderMethodStringTable : List StrTableItem :=
  [strTableItem "SET-PARAMS" 10,
   strTableItem "GET-PARAMS" 0,
   strTableItem "RECORD" 0,
   strTableItem "STOP" 2,
   strTableItem "START-INPUT-TIMERS" 2]

def verifierMethodStringTable : List StrTableItem :=
  [strTableItem "SET-PARAMS" 10,
   strTableItem "GET-PARAMS" 10,
   strTableItem "START-SESSION" 8,
   strTableItem "END-SESSION" 0,
   strTableItem "QUERY-VOICEPRINT" 0,
   strTableItem "DELETE-VOICEPRINT" 0,
   strTableItem "VERIFY" 6,
   strTableItem "VERIFY-FROM-BUFFER" 7,
   strTableItem "VERIFY-ROLLBACK" 7,
   strTableItem "STOP" 2,
   strTableItem "CLEAR-BUFFER" 0,
   strTableItem "START-INPUT-TIMERS" 6,
   strTableItem "GET-INTERMEDIATE-RESULT" 4]

/-! ## Events -/

def synthEventStringTable : List StrTableItem :=
  [strTableItem "SPEECH-MARKER" 3,
   strTableItem "SPEAK-COMPLETE" 3]

def v1RecogEventStringTable : List StrTableItem :=
  [strTableItem "START-OF-SPEECH" 0,
   strTableItem "RECOGNITION-COMPLETE" 0,
   strTableItem "INTERPRETATION-COMPLETE" 0]

def v2RecogEventStringTable : List StrTableItem :=
  [strTableItem "START-OF-INPUT" 0,
   strTableItem "RECOGNITION-COMPLETE" 0,
   strTableItem "INTERPRETATION-COMPLETE" 0]

def recorderEventStringTable : List StrTableItem :=
  [strTableItem "START-OF-INPUT" 0,
   strTableItem "RECORD-COMPLETE" 0]

def verifierEventStringTable : List StrTableItem :=
  [strTableItem "START-OF-INPUT" 0,
   strTableItem "VERIFICATION-COMPLETE" 0]

/-! ## Header fields -/

def synthHeaderStringTable : List StrTableItem :=
  [strTableItem "Jump-Size" 0,
   strTableItem "Kill-On-Barge-In" 0,
   strTableItem "Speaker-Profile" 8,
   strTableItem "Completion-Cause" 16,
   strTableItem "Completion-Reason" 13,
   strTableItem "Voice-Gender" 6,
   strTableItem "Voice-Age" 6,
   strTableItem "Voice-Variant" 6,
   strTableItem "Voice-Name" 8,
   strTableItem "Prosody-Volume" 8,
   strTableItem "Prosody-Rate" 12,
   strTableItem "Speech-Marker" 7,
   strTableItem "Speech-Language" 7,
   strTableItem "Fetch-Hint" 2,
   strTableItem "Audio-Fetch-Hint" 0,
   strTableItem "Failed-Uri" 10,
   strTableItem "Failed-Uri_Cause" 10,
   strTableItem "Speak-Restart" 13,
   strTableItem "Speak-Length" 6,
   strTableItem "Load-Lexicon" 2,
   strTableItem "Lexicon-Search-Order" 2]

def v1RecogHeaderStringTable : List StrTableItem :=
  [strTableItem "Confidence-Threshold" 16,
   strTableItem "Sensitivity-Level" 14,
   strTableItem "Speed-Vs-Accuracy" 4,
   strTableItem "N-Best-List-Length" 1,
   strTableItem "No-Input-Timeout" 2,
   strTableItem "Recognition-Timeout" 19,
   strTableItem "Waveform-Url" 4,
   strTableItem "Completion-Cause" 16,
   strTableItem "Recognizer-Context-Block" 16,
   strTableItem "Recognizer-Start-Timers" 18,
   strTableItem "Speech-Complete-Timeout" 7,
   strTableItem "Speech-Incomplete-Timeout" 12,
   strTableItem "DTMF-Interdigit-Timeout" 10,
   strTableItem "DTMF-Term-Timeout" 14,
   strTableItem "DTMF-Term-Char" 14,
   strTableItem "Failed-Uri" 10,
   strTableItem "Failed-Uri-Cause" 16,
   strTableItem "Save-Waveform" 5,
   strTableItem "New-Audio-Channel" 17,
   strTableItem "Speech-Language" 8,
   strTableItem "Input-Type" 10,
   strTableItem "Input-Waveform-Uri" 6,
   strTableItem "Completion-Reason" 17,
   strTableItem "Media-Type" 0,
   strTableItem "Ver-Buffer-Utterance" 0,
   strTableItem "Recognition-Mode" 16,
   strTableItem "Cancel-If-Queue" 3,
   strTableItem "Hotword-Max-Duration" 10,
   strTableItem "Hotword-Min-Duration" 20,
   strTableItem "Interpret-Text" 12,
   strTableItem "DTMF-Buffer-Time" 16,
   strTableItem "Clear-DTMF-Buffer" 11,
   strTableItem "Early-No-Match" 4,
   strTableItem "Num-Min-Consistent-Pronunciations" 1,
   strTableItem "Consistency-Threshold" 16,
   strTableItem "Clash-Threshold" 2,
   strTableItem "Personal-Grammar-URI" 9,
   strTableItem "Enroll-Utterance" 10,
   strTableItem "Phrase-ID" 8,
   strTableItem "Phrase-NL" 9,
   strTableItem "Weight" 3,
   strTableItem "Save-Best-Waveform" 10,
   strTableItem "New-Phrase-ID" 4,
   strTableItem "Confusable-Phrases-URI" 4,
   strTableItem "Abort-Phrase-Enrollment" 0]

def v2RecogHeaderStringTable : List StrTableItem :=
  [strTableItem "Confidence-Threshold" 16,
   strTableItem "Sensitivity-Level" 14,
   strTableItem "Speed-Vs-Accuracy" 4,
   strTableItem "N-Best-List-Length" 1,
   strTableItem "No-Input-Timeout" 2,
   strTableItem "Recognition-Timeout" 19,
   strTableItem "Waveform-Uri" 4,
   strTableItem "Completion-Cause" 16,
   strTableItem "Recognizer-Context-Block" 7,
   strTableItem "Start-Input-Timers" 18,
   strTableItem "Speech-Complete-Timeout" 7,
   strTableItem "Speech-Incomplete-Timeout" 12,
   strTableItem "DTMF-Interdigit-Timeout" 10,
   strTableItem "DTMF-Term-Timeout" 14,
   strTableItem "DTMF-Term-Char" 14,
   strTableItem "Failed-Uri" 10,
   strTableItem "Failed-Uri-Cause" 16,
   strTableItem "Save-Waveform" 5,
   strTableItem "New-Audio-Channel" 17,
   strTableItem "Speech-Language" 8,
   strTableItem "Input-Type" 10,
   strTableItem "Input-Waveform-Uri" 6,
   strTableItem "Completion-Reason" 13,
   strTableItem "Media-Type" 0,
   strTableItem "Ver-Buffer-Utterance" 0,
   strTableItem "Recognition-Mode" 16,
   strTableItem "Cancel-If-Queue" 3,
   strTableItem "Hotword-Max-Duration" 10,
   strTableItem "Hotword-Min-Duration" 20,
   strTableItem "Interpret-Text" 12,
   strTableItem "DTMF-Buffer-Time" 16,
   strTableItem "Clear-DTMF-Buffer" 11,
   strTableItem "Early-No-Match" 4,
   strTableItem "Num-Min-Consistent-Pronunciations" 1,
   strTableItem "Consistency-Threshold" 16,
   strTableItem "Clash-Threshold" 15,
   strTableItem "Personal-Grammar-URI" 9,
   strTableItem "Enroll-Utterance" 10,
   strTableItem "Phrase-ID" 8,
   strTableItem "Phrase-NL" 9,
   strTableItem "Weight" 3,
   strTableItem "Save-Best-Waveform" 10,
   strTableItem "New-Phrase-ID" 4,
   strTableItem "Confusable-Phrases-URI" 4,
   strTableItem "Abort-Phrase-Enrollment" 0]

def recorderHeaderStringTable : List StrTableItem :=
  [strTableItem "Sensitivity-Level" 3,
   strTableItem "No-Input-Timeout" 2,
   strTableItem "Completion-Cause" 16,
   strTableItem "Completion-Reason" 11,
   strTableItem "Failed-Uri" 10,
   strTableItem "Failed-Uri-Cause" 16,
   strTableItem "Record-Uri" 0,
   strTableItem "Media-Type" 2,
   strTableItem "Max-Time" 2,
   strTableItem "Trim-Length" 0,
   strTableItem "Final-Silence" 1,
   strTableItem "Capture-On-Speech" 2,
   strTableItem "Ver-Buffer-Utterance" 0,
   strTableItem "Start-Input-Timers" 1,
   strTableItem "New-Audio-Channel" 2]

def verifierHeaderStringTable : List StrTableItem :=
  [strTableItem "Repository-URI" 0,
   strTableItem "Voiceprint-Identifier" 12,
   strTableItem "Verification-Mode" 6,
   strTableItem "Adapt-Model" 1,
   strTableItem "Abort-Model" 11,
   strTableItem "Min-Verification-Score" 1,
   strTableItem "Num-Min-Verification-Phrases" 6,
   strTableItem "Num-Max-Verification-Phrases" 5,
   strTableItem "No-Input-Timeout" 2,
   strTableItem "Save-Waveform" 4,
   strTableItem "Media-Type" 2,
   strTableItem "Waveform-URI" 0,
   strTableItem "Voiceprint-Exists" 11,
   strTableItem "Ver-Buffer-Utterance" 4,
   strTableItem "Input-Waveform-URI" 0,
   strTableItem "Completion-Cause" 11,
   strTableItem "Completion-Reason" 15,
   strTableItem "Speech-Complete-Timeout" 1,
   strTableItem "New-Audio-Channel" 2,
   strTableItem "Abort-Verification" 6,
   strTableItem "Start-Input-Timers" 1]

/-! ## Completion causes -/

def synthCompletionCauseStringTable : List StrTableItem :=
  [strTableItem "normal" 0,
   strTableItem "barge-in" 0,
   strTableItem "parse-failure" 0,
   strTableItem "uri-failure" 0,
   strTableItem "error" 0,
   strTableItem "language-unsupported" 4,
   strTableItem "lexicon-load-failure" 1,
   strTableItem "cancelled" 0]

def recorderCompletionCauseStringTable : List StrTableItem :=
  [strTableItem "success-silence" 8,
   strTableItem "success-maxtime" 8,
   strTableItem "no-input-timeout" 0,
   strTableItem "uri-failure" 0,
   strTableItem "error" 0]

def verifierCompletionCauseStringTable : List StrTableItem :=
  [strTableItem "success" 2,
   strTableItem "error" 0,
   strTableItem "no-input-timeout" 0,
   strTableItem "too-much-speech-timeout" 0,
   strTableItem "speech-too-early" 9,
   strTableItem "buffer-empty" 0,
   strTableItem "out-of-sequence" 0,
   strTableItem "repository-uri-failure" 15,
   strTableItem "repository-uri-missing" 15,
   strTableItem "voiceprint-id-missing" 14,
   strTableItem "voiceprint-id-not-exist" 14,
   strTableItem "speech-not-usable" 7]

def v1CompletionCauseStringTable : List StrTableItem :=
  [strTableItem "success" 1,
   strTableItem "no-match" 8,
   strTableItem "no-input-timeout" 3,
   strTableItem "recognition-timeout" 0,
   strTableItem "gram-load-failure" 7,
   strTableItem "gram-comp-failure" 5,
   strTableItem "error" 0,
   strTableItem "speech-too-early" 1,
   strTableItem "too-much-speech-timeout" 0,
   strTableItem "uri-failure" 0,
   strTableItem "language-unsupported" 0,
   strTableItem "cancelled" 0,
   strTableItem "semantics-failure" 2,
   strTableItem "partial-match" 13,
   strTableItem "partial-match-maxtime" 13,
   strTableItem "no-match-maxtime" 9,
   strTableItem "gram-definition-failure" 5]

def v2CompletionCauseStringTable : List StrTableItem :=
  [strTableItem "success" 7,
   strTableItem "no-match" 4,
   strTableItem "no-input-timeout" 3,
   strTableItem "hotword-maxtime" 0,
   strTableItem "grammar-load-failure" 8,
   strTableItem "grammar-compilation-failure" 8,
   strTableItem "recognizer-error" 0,
   strTableItem "speech-too-early" 1,
   strTableItem "success-maxtime" 15,
   strTableItem "uri-failure" 0,
   strTableItem "language-unsupported" 0,
   strTableItem "cancelled" 0,
   strTableItem "semantics-failure" 2,
   strTableItem "partial-match" 13,
   strTableItem "partial-match-maxtime" 13,
   strTableItem "no-match-maxtime" 9,
   strTableItem "grammar-definition-failure" 9]

/-! ## Resources -/

/-- `mrcp_resource_type_e` -/
inductive MrcpResource where
  | synthesizer
  | recognizer
  | recorder
  | verifier
  deriving Repr, DecidableEq

namespace MrcpResource

/-- The name of `mrcp_resource_string_table`. -/
def name : MrcpResource → Bytes
  | .synthesizer => bytesOf "speechsynth"
  | .recognizer => bytesOf "speechrecog"
  | .recorder => bytesOf "recorder"
  | .verifier => bytesOf "speakverify"

/-- `get_method_str_table` -/
def methodStrTable : MrcpResource → MrcpVersion → List StrTableItem
  | .synthesizer, _ => synthMethodStringTable
  | .recognizer, .v1 => v1RecogMethodStringTable
  | .recognizer, _ => v2RecogMethodStringTable
  | .recorder, _ => recorderMethodStringTable
  | .verifier, _ => verifierMethodStringTable

/-- `get_event_str_table` -/
def eventStrTable : MrcpResource → MrcpVersion → List StrTableItem
  | .synthesizer, _ => synthEventStringTable
  | .recognizer, .v1 => v1RecogEventStringTable
  | .recognizer, _ => v2RecogEventStringTable
  | .recorder, _ => recorderEventStringTable
  | .verifier, _ => verifierEventStringTable

/-- The field table of `get_resource_header_vtable`. -/
def headerStrTable : MrcpResource → MrcpVersion → List StrTableItem
  | .synthesizer, _ => synthHeaderStringTable
  | .recognizer, .v1 => v1RecogHeaderStringTable
  | .recognizer, _ => v2RecogHeaderStringTable
  | .recorder, _ => recorderHeaderStringTable
  | .verifier, _ => verifierHeaderStringTable

/-- The table `apt_completion_cause_generate` gets. -/
def completionCauseStrTable : MrcpResource → MrcpVersion → List StrTableItem
  | .synthesizer, _ => synthCompletionCauseStringTable
  | .recognizer, .v1 => v1CompletionCauseStringTable
  | .recognizer, _ => v2CompletionCauseStringTable
  | .recorder, _ => recorderCompletionCauseStringTable
  | .verifier, _ => verifierCompletionCauseStringTable

end MrcpResource

/-- `mrcp_resource_factory_t`: the loaded resources. -/
abbrev ResourceFactory := List MrcpResource

/-- `mrcp_resources_load` -/
def mrcpResourcesLoad : ResourceFactory :=
  [.synthesizer, .recognizer, .recorder, .verifier]

/-- `mrcp_resource_find` -/
def mrcpResourceFind (factory : ResourceFactory) (name : Bytes) : Option MrcpResource :=
  if name.isEmpty then none else factory.find? (fun r => r.name == name)

end UniMrcp.Mrcp
