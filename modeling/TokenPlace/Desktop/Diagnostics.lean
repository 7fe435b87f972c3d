import TokenPlace.Lib.RustText

/-!
# Diagnostic lines of the operator log

What `sanitize_operator_diagnostic_line` makes of a line: a summary of a timeout, sanitized JSON, or
its words with URLs and paths shortened. `serde_json` is a parameter, and so is `Path::file_name`,
which depends on the platform.
-/

namespace Diagnostics

open RustText

/-- A text. -/
abbrev Text := List Char

/-- `sanitize_log_line`. -/
def sanitizeLogLine (line : Text) : Text :=
  line.map fun c => if isControl c && c ≠ '\t' then ' ' else c

/-! ## URLs and paths -/

/-- What is trimmed off a URL and off a path. -/
def isQuote (c : Char) : Bool := c ∈ ['\'', '"', ',', ';', ')', '(']

/-- What is trimmed off a text that may be a path. -/
def isWrapper (c : Char) : Bool := isQuote c || c = '[' || c = ']'

/-- A text that starts with the scheme of a URL. -/
def isUrl (value : Text) : Bool :=
  startsWith value "http://".toList || startsWith value "https://".toList

/-- `sanitize_url_display`. -/
def sanitizeUrlDisplay (value : Text) : Text :=
  let withoutQuery := before '?' (before '#' (trimMatches isQuote value))
  match splitOnceAt "://".toList withoutQuery with
  | none => "<url>".toList
  | some (scheme, rest) =>
    let safeAuthority := afterLast '@' (before '/' rest)
    if scheme ≠ [] ∧ safeAuthority ≠ [] then scheme ++ "://".toList ++ safeAuthority
    else "<url>".toList

/-- `replace("\\\\", "\\").replace('\\', "/")`. -/
def normalized (s : Text) : Text :=
  (collapseBackslashes s).map fun c => if c = '\\' then '/' else c

/-- `sanitize_path_display`. -/
def sanitizePathDisplay (fileName : Text → Option Text) (value : Text) : Text :=
  let trimmed := trimMatches isQuote value
  if startsWith trimmed ['/'] && ((trimmed.splitOn '/').filter (· ≠ [])).length ≤ 2 then
    "<path>".toList
  else
    let crossPlatformName := some (afterLast '/' (normalized trimmed)) |>.filter (· ≠ [])
    match crossPlatformName <|> (fileName trimmed).filter (· ≠ []) with
    | some name => "<path:".toList ++ name ++ ['>']
    | none => "<path>".toList

/-- A drive, a colon and a character of a class. -/
def isDrive (p : Char → Bool) : Text → Bool
  | drive :: ':' :: c :: _ => p c && drive.isAlpha
  | _ => false

/-- `is_windows_drive_path_like`. -/
def isWindowsDrivePathLike (value : Text) : Bool :=
  isDrive (fun c => c = '/' || c = '\\') (trimMatches isWrapper value)

/-- A path of Windows that starts with two slashes, or is of extended length. -/
def isExtendedOrUnc (lower : Text) : Bool :=
  (5 < byteLength lower &&
      (Text.literal "//?/".toList lower <|> Text.literal "/?/".toList lower).any
        (isDrive (· = '/'))) ||
    startsWith lower "//?/unc/".toList || startsWith lower "//".toList

/-- `is_windows_extended_or_unc_path_like`. -/
def isWindowsExtendedOrUncPathLike (value : Text) : Bool :=
  isExtendedOrUnc (lower (normalized (trimMatches isWrapper value)))

/-- `is_path_like`. -/
def isPathLike (value : Text) : Bool :=
  let trimmed := trimMatches isWrapper value
  let lowered := lower (normalized trimmed)
  startsWith trimmed ['/'] || startsWith trimmed "~/".toList ||
    startsWith trimmed "file://".toList || startsWith trimmed ['\\'] || isExtendedOrUnc lowered ||
    Text.contains lowered "/users/".toList || Text.contains lowered "/appdata/".toList ||
    Text.contains lowered "/programs/python/".toList || decide ('/' ∈ trimmed) ||
    isDrive (fun c => c = '/' || c = '\\') trimmed

/-! ## Words -/

/-- A text that stands for JSON that is too long. -/
def truncatedJson : Text :=
  "\x7b\"type\":\"operator_log_json_token_truncated\",\"safe_truncation\":true\x7d".toList

/-- A text that starts as an object or a list does. -/
def looksLikeJson (s : Text) : Bool := startsWith s ['\x7b'] || startsWith s ['[']

/-- A word of the form of a key, the separator and a URL or a path. -/
def sanitizeKeyed (fileName : Text → Option Text) (token : Text) (separator : Char) : Option Text :=
  (splitOnce separator token).bind fun (key, value) =>
    if isUrl value then some (key ++ separator :: sanitizeUrlDisplay value)
    else if isPathLike value then some (key ++ separator :: sanitizePathDisplay fileName value)
    else none

/-- `sanitize_operator_diagnostic_token`. -/
def sanitizeOperatorDiagnosticToken (fileName : Text → Option Text) (token : Text) : Text :=
  if looksLikeJson token then
    if byteLength token ≤ 4096 then token else truncatedJson
  else if isUrl token then sanitizeUrlDisplay token
  else if isWindowsDrivePathLike token || isWindowsExtendedOrUncPathLike token then
    sanitizePathDisplay fileName token
  else
    match sanitizeKeyed fileName token '=' <|> sanitizeKeyed fileName token ':' with
    | some sanitized => sanitized
    | none =>
      if isPathLike token then sanitizePathDisplay fileName token else token.take 4096

/-! ## Timeouts -/

/-- `parse_timeout_expired_seconds`. -/
def parseTimeoutExpiredSeconds (line : Text) : Option Nat :=
  (between "timed out after ".toList line).bind fun rest =>
    let digits := (rest.dropWhile isWhitespace).takeWhile Char.isDigit
    if digits = [] then none
    else some (digits.foldl (fun n c => n * 10 + (c.toNat - '0'.toNat)) 0) |>.filter (· < 2 ^ 64)

/-- The stages that are named. -/
def allowedStages : List Text :=
  ["llama_cpp_gpu_probe".toList, "desktop_runtime_probe".toList, "runtime_import_probe".toList,
    "pip_install".toList, "subprocess_timeout".toList]

/-- `parse_timeout_expired_stage`. -/
def parseTimeoutExpiredStage (line : Text) : Option Text :=
  ["stage=".toList, "stage:".toList].findSome? fun marker =>
    (between marker line).bind fun rest =>
      let stage := (rest.dropWhile fun c => c ∈ ['"', '\'', '[', '(']).takeWhile fun c =>
        c.isAlpha || c.isDigit || c = '_'
      allowedStages.find? (· = stage)

/-- A text about a command that took too long. -/
def isTimeout (text : Text) : Bool :=
  Text.contains text "TimeoutExpired".toList && Text.contains text "Command ".toList

/-- The summary of such a text. -/
def timeoutSummary (text : Text) : Text :=
  "desktop.llama_cpp_worker.init_failed stage=".toList ++
    (parseTimeoutExpiredStage text).getD "subprocess_timeout".toList ++
    " category=worker_timeout".toList ++
    ((parseTimeoutExpiredSeconds text).map fun seconds =>
      " timeout_seconds=".toList ++ (toString seconds).toList).getD []

/-- `sanitize_operator_diagnostic_text`. -/
def sanitizeOperatorDiagnosticText (fileName : Text → Option Text) (text : Text) : Text :=
  if isTimeout text then timeoutSummary text
  else joinWords ((splitWhitespace text).map (sanitizeOperatorDiagnosticToken fileName))

/-! ## JSON -/

/-- A value, over the numbers of `serde_json`; the fields of an object are in the order of its
map. -/
inductive Value (N : Type)
  | null
  | bool (b : Bool)
  | number (n : N)
  | string (s : Text)
  | array (items : List (Value N))
  | object (fields : List (Text × Value N))

/-- What `serde_json` gives: the text of a value, the value of a text, and `as_u64`. -/
structure Serde (N : Type) where
  toString : Value N → Text
  fromStr : Text → Option (Value N)
  asU64 : N → Option Nat

/-- `redacted_json_value`. -/
def redactedJsonValue {N : Type} : Value N := .string "<redacted>".toList

/-- `is_safe_token_u64_or_null_key`. -/
def safeTokenU64OrNullKeys : List String :=
  ["context_window_tokens", "prompt_tokens", "requested_output_tokens", "required_total_tokens",
    "max_tokens", "native_context_tokens", "maximum_validated_context_tokens",
    "requested_context_tokens", "original_context_tokens", "context_size_tokens",
    "qwen_yarn_requested_context_tokens", "qwen_yarn_original_context_tokens",
    "plain_completion_prompt_token_count", "plain_completion_prompt_tokenization_variant_count",
    "plain_completion_prompt_tokenization_selected_token_count",
    "api_v1_readiness_context_window_tokens", "api_v1_readiness_prompt_tokens",
    "api_v1_readiness_yarn_requested_context_tokens",
    "api_v1_readiness_yarn_original_context_tokens",
    "api_v1_readiness_completion_smoke_plain_completion_prompt_token_count",
    "api_v1_readiness_completion_smoke_plain_completion_prompt_tokenization_variant_count",
    "api_v1_readiness_completion_smoke_plain_completion_prompt_tokenization_selected_token_count"]

/-- `is_safe_token_bool_or_null_key`. -/
def safeTokenBoolOrNullKeys : List String :=
  ["plain_completion_accepts_max_tokens_kwarg", "plain_completion_prompt_tokenization_special",
    "plain_completion_prompt_tokenization_attempted",
    "plain_completion_prompt_tokenization_selected_special",
    "api_v1_readiness_completion_smoke_plain_completion_accepts_max_tokens_kwarg",
    "api_v1_readiness_completion_smoke_plain_completion_prompt_tokenization_special",
    "api_v1_readiness_completion_smoke_plain_completion_prompt_tokenization_attempted",
    "api_v1_readiness_completion_smoke_plain_completion_prompt_tokenization_selected_special"]

/-- `is_safe_token_identifier_or_null_key`. -/
def safeTokenIdentifierOrNullKeys : List String :=
  ["plain_completion_prompt_tokenization_error_category",
    "plain_completion_prompt_tokenization_method",
    "plain_completion_prompt_tokenization_selected_variant",
    "api_v1_readiness_completion_smoke_plain_completion_prompt_tokenization_error_category",
    "api_v1_readiness_completion_smoke_plain_completion_prompt_tokenization_method",
    "api_v1_readiness_completion_smoke_plain_completion_prompt_tokenization_selected_variant"]

/-- `is_safe_token_csv_identifier_or_null_key`. -/
def safeTokenCsvIdentifierOrNullKeys : List String :=
  ["plain_completion_prompt_tokenization_variant_ids",
    "plain_completion_prompt_tokenization_special_values",
    "plain_completion_attempt_tokenization_variants",
    "api_v1_readiness_completion_smoke_plain_completion_prompt_tokenization_variant_ids",
    "api_v1_readiness_completion_smoke_plain_completion_prompt_tokenization_special_values",
    "api_v1_readiness_completion_smoke_plain_completion_attempt_tokenization_variants"]

/-- `is_safe_token_csv_u64_or_null_key`. -/
def safeTokenCsvU64OrNullKeys : List String :=
  ["plain_completion_prompt_tokenization_token_counts",
    "api_v1_readiness_completion_smoke_plain_completion_prompt_tokenization_token_counts"]

/-- The key is one of these. -/
def isOneOf (key : Text) (keys : List String) : Bool := keys.any fun name => name.toList = key

/-- `unprefixed_readiness_token_key`. -/
def unprefixedReadinessTokenKey (key : Text) : Text :=
  (Text.literal "api_v1_readiness_completion_smoke_".toList key).getD key

/-- `is_bounded_token_identifier`. -/
def isBoundedTokenIdentifier (value : Text) : Bool :=
  value ≠ [] && byteLength value ≤ 256 &&
    value.all fun c => c.isAlpha || c.isDigit || c ∈ ['_', '.', ':', '/', '@', '+', '-']

/-- `validate_bounded_identifier_csv`. -/
def validateBoundedIdentifierCsv (value : Text) (validateEntry : Text → Bool) : Bool :=
  let entries := (value.splitOn ',').filter (· ≠ [])
  entries.all validateEntry && entries.length ≤ 64

/-- `validate_bounded_csv`. -/
def validateBoundedCsv (value : Text) (validateEntry : Text → Bool) : Bool :=
  let entries := value.splitOn ','
  entries.all (fun entry => entry ≠ [] && validateEntry entry) && entries.length ≤ 64

/-- `is_bounded_token_csv_u64s`. -/
def isBoundedTokenCsvU64s (value : Text) : Bool :=
  value = [] || (byteLength value ≤ 256 && validateBoundedCsv value fun entry =>
    entry.all Char.isDigit &&
      entry.foldl (fun n c => n * 10 + (c.toNat - '0'.toNat)) 0 < 2 ^ 64)

/-- `is_safe_tokenization_variant`. -/
def isSafeTokenizationVariant (value : Text) : Bool :=
  isOneOf value ["tokenize_add_bos_false_special_false", "tokenize_add_bos_false_no_special",
    "tokenize_add_bos_false_special_true"]

/-- `is_safe_tokenization_special_value`. -/
def isSafeTokenizationSpecialValue (value : Text) : Bool := isOneOf value ["false", "none", "true"]

/-- `is_safe_tokenization_error_category`. -/
def isSafeTokenizationErrorCategory (value : Text) : Bool :=
  isOneOf value ["", "context_length_exceeded", "context_window_exceeded", "tokenizer_unavailable",
    "method_shape", "tokenizer_special_rejected", "token_overflow", "prompt_tokenization_failure",
    "prompt_eval_failure", "prompt_eval_decode_failure", "prompt_eval_invalid_batch",
    "backend_allocation_failure", "backend_graph_compute_failure", "metal_graph_compute_failure",
    "kv_slot_unavailable", "decode_aborted", "backend_decode_failure",
    "prompt_eval_backend_failure", "prompt_eval_invalid_token_failure",
    "prompt_eval_state_failure", "prompt_eval_context_failure", "sampling_failure"]

/-- `is_safe_token_identifier_value`. -/
def isSafeTokenIdentifierValue (key value : Text) : Bool :=
  (value = [] || isBoundedTokenIdentifier value) &&
    (let name := unprefixedReadinessTokenKey key
    if isOneOf name ["plain_completion_prompt_tokenization_error_category"] then
      isSafeTokenizationErrorCategory value
    else if isOneOf name ["plain_completion_prompt_tokenization_method"] then
      isOneOf value ["", "llama.tokenize"]
    else if isOneOf name ["plain_completion_prompt_tokenization_selected_variant"] then
      value = [] || isSafeTokenizationVariant value
    else false)

/-- `is_safe_token_csv_identifier_value`. -/
def isSafeTokenCsvIdentifierValue (key value : Text) : Bool :=
  byteLength value ≤ 256 && validateBoundedIdentifierCsv value isBoundedTokenIdentifier &&
    (let name := unprefixedReadinessTokenKey key
    if isOneOf name ["plain_completion_prompt_tokenization_variant_ids",
        "plain_completion_attempt_tokenization_variants"] then
      validateBoundedIdentifierCsv value isSafeTokenizationVariant
    else if isOneOf name ["plain_completion_prompt_tokenization_special_values"] then
      validateBoundedIdentifierCsv value isSafeTokenizationSpecialValue
    else false)

variable {N : Type}

/-- A safe text is sanitized as a word, `null` stays, and anything else is redacted. -/
def sanitizeSafeText (fileName : Text → Option Text) (safe : Text → Bool) : Value N → Value N
  | .null => .null
  | .string text =>
    if safe text then .string (sanitizeOperatorDiagnosticToken fileName text)
    else redactedJsonValue
  | _ => redactedJsonValue

/-- `sanitize_safe_token_metadata`. -/
def sanitizeSafeTokenMetadata (serde : Serde N) (fileName : Text → Option Text) (key : Text)
    (value : Value N) : Option (Value N) :=
  if isOneOf key safeTokenU64OrNullKeys then
    some (match value with
      | .null => .null
      | .number n => if (serde.asU64 n).isSome then .number n else redactedJsonValue
      | _ => redactedJsonValue)
  else if isOneOf key safeTokenBoolOrNullKeys then
    some (match value with
      | .null => .null
      | .bool b => .bool b
      | _ => redactedJsonValue)
  else if isOneOf key safeTokenIdentifierOrNullKeys then
    some (sanitizeSafeText fileName (isSafeTokenIdentifierValue key) value)
  else if isOneOf key safeTokenCsvIdentifierOrNullKeys then
    some (sanitizeSafeText fileName (isSafeTokenCsvIdentifierValue key) value)
  else if isOneOf key safeTokenCsvU64OrNullKeys then
    some (sanitizeSafeText fileName isBoundedTokenCsvU64s value)
  else none

/-- The parts of keys whose values are redacted. -/
def redactedParts : List Text :=
  ["api_key".toList, "token".toList, "prompt".toList, "output".toList, "response".toList,
    "private_key".toList, "payload".toList]

/-- A key with one of these parts, in any case. -/
def isSensitive (key : Text) : Bool := redactedParts.any (Text.contains (lower key))

mutual

/-- `sanitize_operator_json_value`. -/
def sanitizeOperatorJsonValue (serde : Serde N) (fileName : Text → Option Text) :
    Value N → Value N
  | .object fields => .object (sanitizeFields serde fileName fields)
  | .array items => .array (sanitizeItems serde fileName 32 items)
  | .string text => .string (sanitizeOperatorDiagnosticText fileName text)
  | .null => .null
  | .bool b => .bool b
  | .number n => .number n

/-- The fields of an object. -/
def sanitizeFields (serde : Serde N) (fileName : Text → Option Text) :
    List (Text × Value N) → List (Text × Value N)
  | [] => []
  | (key, value) :: fields =>
    (key, match sanitizeSafeTokenMetadata serde fileName key value with
      | some metadata => metadata
      | none =>
        if isSensitive key then redactedJsonValue
        else sanitizeOperatorJsonValue serde fileName value) ::
      sanitizeFields serde fileName fields

/-- The first items of a list. -/
def sanitizeItems (serde : Serde N) (fileName : Text → Option Text) :
    Nat → List (Value N) → List (Value N)
  | 0, _ => []
  | _ + 1, [] => []
  | n + 1, item :: items =>
    sanitizeOperatorJsonValue serde fileName item :: sanitizeItems serde fileName n items

end

/-- `sanitize_operator_diagnostic_line`. -/
def sanitizeOperatorDiagnosticLine (serde : Serde N) (fileName : Text → Option Text)
    (line : Text) : Text :=
  let line := sanitizeLogLine line
  let trimmed := trim line
  if looksLikeJson trimmed then
    if 4096 < byteLength trimmed then truncatedJson
    else
      match serde.fromStr trimmed with
      | some value => serde.toString (sanitizeOperatorJsonValue serde fileName value)
      | none => sanitizeOperatorDiagnosticText fileName line
  else sanitizeOperatorDiagnosticText fileName line

end Diagnostics
