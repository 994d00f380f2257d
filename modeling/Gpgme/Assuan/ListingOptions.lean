import Gpgme.Assuan.SimpleCommand

/-! The options of a key listing with `engine-gpgsm.c`. The server keeps an option over `RESET`
and over other operations until it is set again.
-/

namespace Gpgme

open CString

-----------------------------------------------------------------------------------------
-- The server
-----------------------------------------------------------------------------------------

/-- The options that have been set, with their values. -/
abbrev ServerOptions := Str → Option Str

def isOptionName (c : UInt8) : Bool := c != 61 && c != blank

/-- What a command does to the options of the server: only `OPTION` sets one. The value stands
behind a blank or an equals sign.
-/
def serverOption (options : ServerOptions) (line : Str) : ServerOptions :=
  if startsWith line (str "OPTION ") then
    let text := skipBlanks (line.drop 7)
    let rest := skipBlanks (text.dropWhile isOptionName)
    let value := if rest.head? = some 61 then skipBlanks rest.tail else rest
    Function.update options (text.takeWhile isOptionName) (some value)
  else
    options

/-- The options behind a sequence of commands. -/
def serverOptions (options : ServerOptions) (lines : List Str) : ServerOptions :=
  lines.foldl serverOption options

/-- An option that is not set is off. -/
def isOn (options : ServerOptions) (name : Str) : Bool := options name == some (str "1")

-----------------------------------------------------------------------------------------
-- The commands of other operations
-----------------------------------------------------------------------------------------

/-- A channel of `gpgsm_set_fd`. -/
inductive FdType where
  | input
  | output
  | message

def FdType.which : FdType → Str
  | .input => str "INPUT"
  | .output => str "OUTPUT"
  | .message => str "MESSAGE"

/-- The commands of `engine-gpgsm.c` besides those of a key listing. -/
inductive GpgsmCommand where
  | display (value : Str)
  | ttyname (value : Str)
  | ttytype (value : Str)
  | enableAuditLog
  | allowPinentryNotify
  | lcCtype (value : Str)
  | lcMessages (value : Str)
  | reset
  | requestOrigin (origin : Str)
  | fd (fdType : FdType) (opt : Option Str)
  | decrypt
  | delkeys (fpr : Str)
  | noEncryptTo
  | recipient (name : Str)
  | encrypt
  | exportKeys (args : Str)
  | genkey
  | cmdHasOption
  | importKeys (reImport : Bool)
  | includeCerts (count : Str)
  | signer (fpr : Str)
  | sign (detached : Bool)
  | verify
  | getauditlog (html : Bool)
  | passwd (fpr : Str)

/-- The line that is sent. -/
def GpgsmCommand.line : GpgsmCommand → Str
  | .display value => str "OPTION display=" ++ value
  | .ttyname value => str "OPTION ttyname=" ++ value
  | .ttytype value => str "OPTION ttytype=" ++ value
  | .enableAuditLog => str "OPTION enable-audit-log=1"
  | .allowPinentryNotify => str "OPTION allow-pinentry-notify"
  | .lcCtype value => str "OPTION lc-ctype=" ++ value
  | .lcMessages value => str "OPTION lc-messages=" ++ value
  | .reset => str "RESET"
  | .requestOrigin origin => str "OPTION request-origin=" ++ origin
  | .fd fdType none => fdType.which ++ str " FD"
  | .fd fdType (some opt) => fdType.which ++ str " FD " ++ opt
  | .decrypt => str "DECRYPT"
  | .delkeys fpr => str "DELKEYS " ++ fpr
  | .noEncryptTo => str "OPTION no-encrypt-to"
  | .recipient name => str "RECIPIENT " ++ name
  | .encrypt => str "ENCRYPT"
  | .exportKeys args => str "EXPORT " ++ args
  | .genkey => str "GENKEY"
  | .cmdHasOption => str "GETINFO cmd_has_option IMPORT re-import"
  | .importKeys reImport => if reImport then str "IMPORT --re-import" else str "IMPORT"
  | .includeCerts count => str "OPTION include-certs " ++ count
  | .signer fpr => str "SIGNER " ++ fpr
  | .sign detached => if detached then str "SIGN --detached" else str "SIGN"
  | .verify => str "VERIFY"
  | .getauditlog html => if html then str "GETAUDITLOG --html" else str "GETAUDITLOG"
  | .passwd fpr => str "PASSWD -- " ++ fpr

-----------------------------------------------------------------------------------------
-- Key listings
-----------------------------------------------------------------------------------------

namespace KeylistMode

def isLocal : Nat := 1
def isExtern : Nat := 2
def withSecret : Nat := 16
def ephemeral : Nat := 128
def validate : Nat := 256

end KeylistMode

def engineFlagOffline : Nat := 1

def hasBit (mode bit : Nat) : Bool := mode &&& bit != 0

def optionListMode : Str := str "list-mode"
def optionValidation : Str := str "with-validation"
def optionEphemeral : Str := str "with-ephemeral-keys"
def optionSecret : Str := str "with-secret"
def optionOffline : Str := str "offline"

/-- The options of a key listing. -/
def listingOptions : List Str :=
  [optionListMode, optionValidation, optionEphemeral, optionSecret, optionOffline]

/-- `OPTION name=value`. -/
def optionLine (name value : Str) : Str := str "OPTION " ++ name ++ str "=" ++ value

/-- The command that switches an option on or off. -/
def flagLine (name : Str) (on : Bool) : Str := optionLine name (if on then str "1" else str "0")

/-- The value of `list-mode`. -/
def listModeValue (mode : Nat) : Str :=
  [48 + (if hasBit mode KeylistMode.isLocal then 1 else 0)
    + if hasBit mode KeylistMode.isExtern then 2 else 0]

/-- The arguments of `gpgsm_keylist` and `gpgsm_keylist_ext` besides the pattern, and the origin
of requests that is set in the engine.
-/
structure ListingArgs where
  secretOnly : Bool := false
  mode : Nat := 0
  engineFlags : Nat := 0
  requestOrigin : Str := []

/-- The verb of the listing. -/
def ListingArgs.verb (args : ListingArgs) : Str :=
  if args.secretOnly then str "LISTSECRETKEYS " else str "LISTKEYS "

/-- The command that `start` sends in front of the one that it is given. -/
def ListingArgs.originLines (args : ListingArgs) : List Str :=
  if args.requestOrigin = [] then [] else [(GpgsmCommand.requestOrigin args.requestOrigin).line]

/-- The command that makes the server start the agent, which only `gpgsm_keylist` sends. -/
def ListingArgs.agentLines (args : ListingArgs) : List Str :=
  if args.secretOnly || hasBit args.mode KeylistMode.withSecret then [str "GETINFO agent-check"]
  else []

/-- The commands that `gpgsm_keylist` sends in front of the listing. -/
def gpgsmKeylistOptions (args : ListingArgs) : List Str :=
  args.agentLines
    ++ [optionLine optionListMode (listModeValue args.mode),
      flagLine optionValidation (hasBit args.mode KeylistMode.validate),
      flagLine optionEphemeral (hasBit args.mode KeylistMode.ephemeral),
      flagLine optionSecret (hasBit args.mode KeylistMode.withSecret),
      flagLine optionOffline (hasBit args.engineFlags engineFlagOffline)]
    ++ args.originLines

/-- The listing of `gpgsm_keylist`, whose pattern is sent as it is. -/
def gpgsmKeylistLine (args : ListingArgs) (pattern : Option Str) : Str :=
  args.verb ++ pattern.getD []

/-- The commands that `gpgsm_keylist_ext` sends in front of the listing. -/
def gpgsmKeylistExtOptions (args : ListingArgs) : List Str :=
  [optionLine optionListMode (listModeValue args.mode),
    flagLine optionValidation (hasBit args.mode KeylistMode.validate),
    flagLine optionSecret (hasBit args.mode KeylistMode.withSecret),
    flagLine optionOffline (hasBit args.engineFlags engineFlagOffline)]
    ++ args.originLines

/-- A character that stands for something else in a pattern. -/
def isReserved (c : UInt8) : Bool := c == 37 || c == 32 || c == 43

/-- A character of a pattern as `gpgsm_keylist_ext` sends it. -/
def escapeChar (c : UInt8) : Str :=
  if c = 37 then str "%25"
  else if c = 32 then str "%20"
  else if c = 43 then str "%2B"
  else [c]

/-- The listing of `gpgsm_keylist_ext`, with blanks between the patterns. -/
def gpgsmKeylistExtLine (args : ListingArgs) (patterns : List Str) : Str :=
  args.verb ++ List.intercalate [blank] (patterns.map (·.flatMap escapeChar))

-----------------------------------------------------------------------------------------
-- Connections
-----------------------------------------------------------------------------------------

/-- What happens on a connection. A listing may fail on the way, so that only the first of its
commands are sent; `gpgsm_keylist_ext` sends nothing when its reserved argument is not 0.
-/
inductive ConnectionEvent where
  | other (command : GpgsmCommand)
  | keylist (args : ListingArgs) (pattern : Option Str) (sent : Nat)
  | keylistExt (args : ListingArgs) (patterns : List Str) (reserved : Bool) (sent : Nat)

/-- The commands in front of the listing. -/
def ConnectionEvent.options : ConnectionEvent → List Str
  | .other _ => []
  | .keylist args _ _ => gpgsmKeylistOptions args
  | .keylistExt args _ reserved _ => if reserved then [] else gpgsmKeylistExtOptions args

/-- The commands that are sent. -/
def ConnectionEvent.lines : ConnectionEvent → List Str
  | .other command => [command.line]
  | .keylist args pattern sent =>
      (gpgsmKeylistOptions args ++ [gpgsmKeylistLine args pattern]).take sent
  | .keylistExt args patterns reserved sent =>
      if reserved then []
      else (gpgsmKeylistExtOptions args ++ [gpgsmKeylistExtLine args patterns]).take sent

/-- The arguments of a listing whose last command, the listing itself, is sent. -/
def ConnectionEvent.listing : ConnectionEvent → Option ListingArgs
  | .other _ => none
  | .keylist args _ sent => if (gpgsmKeylistOptions args).length < sent then some args else none
  | .keylistExt args _ reserved sent =>
      if !reserved && (gpgsmKeylistExtOptions args).length < sent then some args else none

/-- The options of the server are those that a listing asks for. -/
structure OptionsMatch (options : ServerOptions) (args : ListingArgs) : Prop where
  listMode : options optionListMode = some (listModeValue args.mode)
  validation : isOn options optionValidation = hasBit args.mode KeylistMode.validate
  ephemeral : isOn options optionEphemeral = hasBit args.mode KeylistMode.ephemeral
  secret : isOn options optionSecret = hasBit args.mode KeylistMode.withSecret
  offline : isOn options optionOffline = hasBit args.engineFlags engineFlagOffline

/-- The options match whenever a listing is sent. -/
def ListingsMatch : ServerOptions → List ConnectionEvent → Prop
  | _, [] => True
  | options, event :: later =>
      (∀ args, event.listing = some args → OptionsMatch (serverOptions options event.options) args)
      ∧ ListingsMatch (serverOptions options event.lines) later

/-- The number of commands with which `gpgsm_keylist` has set the option for ephemeral keys. -/
def ephemeralPosition (args : ListingArgs) : Nat := args.agentLines.length + 3

/-- Every listing of `gpgsm_keylist_ext` asks for ephemeral keys exactly if the last
`gpgsm_keylist` did that has set the option, where there was one.
-/
def EphemeralAgrees : Bool → List ConnectionEvent → Prop
  | _, [] => True
  | last, .other _ :: later => EphemeralAgrees last later
  | last, .keylist args _ sent :: later =>
      EphemeralAgrees
        (if ephemeralPosition args ≤ sent then hasBit args.mode KeylistMode.ephemeral else last)
        later
  | last, .keylistExt args patterns reserved sent :: later =>
      (∀ args', (ConnectionEvent.keylistExt args patterns reserved sent).listing = some args' →
        hasBit args'.mode KeylistMode.ephemeral = last)
      ∧ EphemeralAgrees last later

/-- What a server bases a listing on. -/
structure ListingRequest where
  listMode : Option Str
  validation : Bool
  ephemeral : Bool
  secret : Bool
  offline : Bool
  line : Str

def listingRequest (options : ServerOptions) (line : Str) : ListingRequest :=
  { listMode := options optionListMode
    validation := isOn options optionValidation
    ephemeral := isOn options optionEphemeral
    secret := isOn options optionSecret
    offline := isOn options optionOffline
    line }

-----------------------------------------------------------------------------------------
-- What a command leaves alone
-----------------------------------------------------------------------------------------

/-- A command does not set an option. -/
def Leaves (name line : Str) : Prop := ∀ options, serverOption options line name = options name

theorem leaves_of_verb {line : Str} (verb : startsWith line (str "OPTION ") = false) (name : Str)
    : Leaves name line := by
  intro options
  unfold serverOption
  rw [verb]
  rfl

theorem leaves_of_name {line name : Str} (other : Str)
    (sets : (skipBlanks (line.drop 7)).takeWhile isOptionName = other) (differs : name ≠ other)
    : Leaves name line := by
  intro options
  unfold serverOption
  split
  · dsimp only
    rw [sets]
    exact Function.update_of_ne differs ..
  · rfl

theorem serverOptions_of_leaves {name : Str} {lines : List Str}
    (leaves : ∀ line ∈ lines, Leaves name line) (options : ServerOptions)
    : serverOptions options lines name = options name := by
  induction lines generalizing options with
  | nil => rfl
  | cons line rest ih =>
      have later := ih (fun line member => leaves line (List.mem_cons_of_mem _ member))
        (serverOption options line)
      exact later.trans (leaves line List.mem_cons_self options)

@[simp]
theorem serverOptions_cons (options : ServerOptions) (line : Str) (rest : List Str)
    : serverOptions options (line :: rest) = serverOptions (serverOption options line) rest :=
  rfl

@[simp]
theorem serverOptions_nil (options : ServerOptions) : serverOptions options [] = options := rfl

theorem serverOptions_append (options : ServerOptions) (lines more : List Str)
    : serverOptions options (lines ++ more) = serverOptions (serverOptions options lines) more :=
  List.foldl_append

theorem GpgsmCommand.leaves (command : GpgsmCommand) {name : Str} (listing : name ∈ listingOptions)
    : Leaves name command.line := by
  have differs {other : Str} (absent : other ∉ listingOptions) : name ≠ other :=
    ne_of_mem_of_not_mem listing absent
  cases command with
  | display value => exact leaves_of_name (str "display") rfl (differs (by decide))
  | ttyname value => exact leaves_of_name (str "ttyname") rfl (differs (by decide))
  | ttytype value => exact leaves_of_name (str "ttytype") rfl (differs (by decide))
  | enableAuditLog =>
      exact leaves_of_name (str "enable-audit-log") rfl (differs (by decide))
  | allowPinentryNotify =>
      exact leaves_of_name (str "allow-pinentry-notify") rfl (differs (by decide))
  | lcCtype value => exact leaves_of_name (str "lc-ctype") rfl (differs (by decide))
  | lcMessages value =>
      exact leaves_of_name (str "lc-messages") rfl (differs (by decide))
  | requestOrigin origin =>
      exact leaves_of_name (str "request-origin") rfl (differs (by decide))
  | noEncryptTo => exact leaves_of_name (str "no-encrypt-to") rfl (differs (by decide))
  | includeCerts count =>
      exact leaves_of_name (str "include-certs") rfl (differs (by decide))
  | fd fdType opt =>
      refine leaves_of_verb ?_ name
      cases fdType <;> cases opt <;> rfl
  | importKeys reImport =>
      refine leaves_of_verb ?_ name
      cases reImport <;> rfl
  | sign detached =>
      refine leaves_of_verb ?_ name
      cases detached <;> rfl
  | getauditlog html =>
      refine leaves_of_verb ?_ name
      cases html <;> rfl
  | reset | decrypt | encrypt | genkey | cmdHasOption | verify => exact leaves_of_verb rfl name
  | delkeys fpr | signer fpr | passwd fpr => exact leaves_of_verb rfl name
  | recipient text => exact leaves_of_verb rfl name
  | exportKeys args => exact leaves_of_verb rfl name

-----------------------------------------------------------------------------------------
-- What a listing sets
-----------------------------------------------------------------------------------------

theorem serverOption_optionLine (options : ServerOptions) {name value : Str}
    (plain : ∀ c ∈ name, isOptionName c = true)
    (started : name ≠ []) (visible : value.head? ≠ some blank)
    : serverOption options (optionLine name value)
      = Function.update options name (some value) := by
  have skipped {text : Str} (first : text.head? ≠ some blank) : skipBlanks text = text := by
    cases text with
    | nil => rfl
    | cons c rest =>
        have other : (c == blank) = false := by simpa using first
        simp [skipBlanks, other]
  have behind : (optionLine name value).drop 7 = name ++ (str "=" ++ value) := by
    have assoc : optionLine name value = str "OPTION " ++ (name ++ (str "=" ++ value)) := by
      simp [optionLine, List.append_assoc]
    rw [assoc]
    rfl
  have verb : startsWith (optionLine name value) (str "OPTION ") = true := by
    unfold startsWith optionLine
    rw [List.append_assoc, List.append_assoc, List.take_left]
    exact beq_self_eq_true _
  have first : (name ++ (str "=" ++ value)).head? ≠ some blank := by
    obtain ⟨c, rest, rfl⟩ := List.exists_cons_of_ne_nil started
    have letter := plain c List.mem_cons_self
    intro same
    cases same
    simp [isOptionName] at letter
  have stops : (str "=" ++ value).takeWhile isOptionName = [] := rfl
  have stays : (str "=" ++ value).dropWhile isOptionName = str "=" ++ value := rfl
  unfold serverOption
  rw [verb, if_pos rfl, behind, skipped first]
  dsimp only
  rw [List.takeWhile_append_of_pos plain, stops, List.append_nil,
    List.dropWhile_append_of_pos plain, stays]
  have equals : skipBlanks (str "=" ++ value) = str "=" ++ value := rfl
  rw [equals]
  change Function.update options name (some (skipBlanks value)) = _
  rw [skipped visible]

theorem listingOption_plain {name : Str} (listing : name ∈ listingOptions)
    : name ≠ [] ∧ ∀ c ∈ name, isOptionName c = true := by
  have all : listingOptions.all (fun name => !name.isEmpty && name.all isOptionName) = true := by
    decide +kernel
  have checked := List.all_eq_true.mp all name listing
  rw [Bool.and_eq_true, List.all_eq_true] at checked
  exact ⟨by simpa using checked.1, checked.2⟩

theorem serverOption_listMode (options : ServerOptions) (mode : Nat)
    : serverOption options (optionLine optionListMode (listModeValue mode))
      = Function.update options optionListMode (some (listModeValue mode)) := by
  obtain ⟨started, plain⟩ := listingOption_plain (List.mem_cons_self (a := optionListMode))
  refine serverOption_optionLine options plain started ?_
  unfold listModeValue
  cases hasBit mode KeylistMode.isLocal <;> cases hasBit mode KeylistMode.isExtern <;> decide

/-- The value of a switched option. -/
def flagValue (on : Bool) : Str := if on then str "1" else str "0"

theorem serverOption_flagLine (options : ServerOptions) {name : Str}
    (listing : name ∈ listingOptions) (on : Bool)
    : serverOption options (flagLine name on)
      = Function.update options name (some (flagValue on)) := by
  obtain ⟨started, plain⟩ := listingOption_plain listing
  refine serverOption_optionLine options plain started ?_
  cases on <;> decide

theorem flagValue_isOn (on : Bool) : (some (flagValue on) == some (str "1")) = on := by
  cases on <;> decide

theorem leaves_originLines (args : ListingArgs) {name : Str} (listing : name ∈ listingOptions)
    : ∀ line ∈ args.originLines, Leaves name line := by
  intro line member
  unfold ListingArgs.originLines at member
  split at member
  · cases member
  · rw [List.mem_singleton.mp member]
    exact (GpgsmCommand.requestOrigin args.requestOrigin).leaves listing

theorem leaves_listing (args : ListingArgs) (name pattern : Str)
    : Leaves name (args.verb ++ pattern) := by
  refine leaves_of_verb ?_ name
  unfold ListingArgs.verb
  cases args.secretOnly <;> rfl

theorem leaves_flagLine {name other : Str} (listing : other ∈ listingOptions)
    (differs : name ≠ other) (on : Bool)
    : Leaves name (flagLine other on) := by
  intro options
  rw [serverOption_flagLine options listing]
  exact Function.update_of_ne differs ..

theorem leaves_listMode {name : Str} (differs : name ≠ optionListMode) (mode : Nat)
    : Leaves name (optionLine optionListMode (listModeValue mode)) := by
  intro options
  rw [serverOption_listMode]
  exact Function.update_of_ne differs ..

theorem serverOptions_listing (options : ServerOptions) (args : ListingArgs)
    (ephemeral : Option Bool)
    : let after :=
        serverOptions options
          ([optionLine optionListMode (listModeValue args.mode),
              flagLine optionValidation (hasBit args.mode KeylistMode.validate)]
            ++ (ephemeral.map (flagLine optionEphemeral)).toList
            ++ [flagLine optionSecret (hasBit args.mode KeylistMode.withSecret),
              flagLine optionOffline (hasBit args.engineFlags engineFlagOffline)]
            ++ args.originLines)
      after optionListMode = some (listModeValue args.mode)
      ∧ isOn after optionValidation = hasBit args.mode KeylistMode.validate
      ∧ isOn after optionEphemeral = ephemeral.getD (isOn options optionEphemeral)
      ∧ isOn after optionSecret = hasBit args.mode KeylistMode.withSecret
      ∧ isOn after optionOffline = hasBit args.engineFlags engineFlagOffline := by
  have origin (options : ServerOptions) {name : Str} (listing : name ∈ listingOptions)
      : serverOptions options args.originLines name = options name :=
    serverOptions_of_leaves (leaves_originLines args listing) options
  have distinct : listingOptions.Nodup := by decide
  simp only [listingOptions, List.nodup_cons, List.mem_cons, List.not_mem_nil, or_false,
    not_or] at distinct
  obtain ⟨⟨lv, le, ls, lo⟩, ⟨ve, vs, vo⟩, ⟨es, eo⟩, so, -⟩ := distinct
  have validation : optionValidation ∈ listingOptions := by simp [listingOptions]
  have ephemeralKeys : optionEphemeral ∈ listingOptions := by simp [listingOptions]
  have secret : optionSecret ∈ listingOptions := by simp [listingOptions]
  have offline : optionOffline ∈ listingOptions := by simp [listingOptions]
  dsimp only
  rw [serverOptions_append]
  unfold isOn
  rw [origin _ List.mem_cons_self, origin _ validation, origin _ ephemeralKeys, origin _ secret,
    origin _ offline]
  cases ephemeral with
  | none =>
      simp only [Option.map_none, Option.toList_none, List.append_nil, List.cons_append,
        List.nil_append, serverOptions_cons, serverOptions_nil, serverOption_listMode,
        serverOption_flagLine _ validation, serverOption_flagLine _ secret,
        serverOption_flagLine _ offline]
      simp only [Function.update_apply, lv, ls, lo, vs, vo, es, eo, so, Ne.symm le,
        Ne.symm ve, if_true, if_false, Option.getD_none, flagValue_isOn, and_self]
  | some on =>
      simp only [Option.map_some, Option.toList_some, List.cons_append,
        List.nil_append, serverOptions_cons, serverOptions_nil, serverOption_listMode,
        serverOption_flagLine _ validation, serverOption_flagLine _ ephemeralKeys,
        serverOption_flagLine _ secret, serverOption_flagLine _ offline]
      simp only [Function.update_apply, lv, le, ls, lo, ve, vs, vo, es, eo, so,
        if_true, if_false, Option.getD_some, flagValue_isOn, and_self]

-----------------------------------------------------------------------------------------
-- The two entry points
-----------------------------------------------------------------------------------------

theorem optionsMatch_keylist (options : ServerOptions) (args : ListingArgs)
    : OptionsMatch (serverOptions options (gpgsmKeylistOptions args)) args := by
  unfold gpgsmKeylistOptions
  rw [List.append_assoc, serverOptions_append]
  generalize serverOptions options _ = options
  obtain ⟨listMode, validation, ephemeral, secret, offline⟩ :=
    serverOptions_listing options args (some (hasBit args.mode KeylistMode.ephemeral))
  exact ⟨listMode, validation, ephemeral, secret, offline⟩

theorem optionsMatch_keylistExt_iff (options : ServerOptions) (args : ListingArgs)
    : OptionsMatch (serverOptions options (gpgsmKeylistExtOptions args)) args
      ↔ hasBit args.mode KeylistMode.ephemeral = isOn options optionEphemeral := by
  obtain ⟨listMode, validation, ephemeral, secret, offline⟩ :=
    serverOptions_listing options args none
  constructor
  · intro fits
    exact fits.ephemeral.symm.trans ephemeral
  · intro same
    exact ⟨listMode, validation, ephemeral.trans same.symm, secret, offline⟩

theorem serverOptions_take {name value line : Str} {front back : List Str}
    (sets : ∀ options, serverOption options line name = some value)
    (before : ∀ line ∈ front, Leaves name line) (behind : ∀ line ∈ back, Leaves name line)
    (options : ServerOptions) (sent : Nat)
    : serverOptions options ((front ++ line :: back).take sent) name
      = if front.length < sent then some value else options name := by
  rw [List.take_append, serverOptions_append]
  have kept : serverOptions options (front.take sent) name = options name :=
    serverOptions_of_leaves (fun line member => before line (List.mem_of_mem_take member)) options
  split
  · next reached =>
      obtain ⟨more, positive⟩ : ∃ more, sent - front.length = more + 1 :=
        ⟨sent - front.length - 1, by omega⟩
      rw [positive, List.take_succ_cons, serverOptions_cons,
        serverOptions_of_leaves fun line member => behind line (List.mem_of_mem_take member), sets]
  · next early =>
      have nothing : sent - front.length = 0 := by omega
      rw [nothing, List.take_zero, serverOptions_nil]
      exact kept

theorem leaves_agentLines (args : ListingArgs) (name : Str)
    : ∀ line ∈ args.agentLines, Leaves name line := by
  intro line member
  unfold ListingArgs.agentLines at member
  split at member
  · rw [List.mem_singleton.mp member]
    exact leaves_of_verb rfl name
  · cases member

theorem isOn_keylist (options : ServerOptions) (args : ListingArgs) (pattern : Option Str)
    (sent : Nat)
    : isOn (serverOptions options (ConnectionEvent.keylist args pattern sent).lines) optionEphemeral
      = if ephemeralPosition args ≤ sent then hasBit args.mode KeylistMode.ephemeral
        else isOn options optionEphemeral := by
  have ephemeral : optionEphemeral ∈ listingOptions := by simp [listingOptions]
  have lines : gpgsmKeylistOptions args ++ [gpgsmKeylistLine args pattern]
      = (args.agentLines
          ++ [optionLine optionListMode (listModeValue args.mode),
            flagLine optionValidation (hasBit args.mode KeylistMode.validate)])
        ++ flagLine optionEphemeral (hasBit args.mode KeylistMode.ephemeral)
          :: ([flagLine optionSecret (hasBit args.mode KeylistMode.withSecret),
              flagLine optionOffline (hasBit args.engineFlags engineFlagOffline)]
            ++ args.originLines ++ [gpgsmKeylistLine args pattern]) := by
    simp [gpgsmKeylistOptions, List.append_assoc]
  have sets (options : ServerOptions)
      : serverOption options (flagLine optionEphemeral (hasBit args.mode KeylistMode.ephemeral))
          optionEphemeral
        = some (flagValue (hasBit args.mode KeylistMode.ephemeral)) := by
    rw [serverOption_flagLine options ephemeral]
    exact Function.update_self ..
  have before : ∀ line ∈ args.agentLines
        ++ [optionLine optionListMode (listModeValue args.mode),
          flagLine optionValidation (hasBit args.mode KeylistMode.validate)],
      Leaves optionEphemeral line := by
    intro line member
    simp only [List.mem_append, List.mem_cons, List.not_mem_nil, or_false] at member
    rcases member with agent | rfl | rfl
    · exact leaves_agentLines args _ line agent
    · exact leaves_listMode (by decide) _
    · exact leaves_flagLine (by simp [listingOptions]) (by decide) _
  have behind : ∀ line ∈ [flagLine optionSecret (hasBit args.mode KeylistMode.withSecret),
          flagLine optionOffline (hasBit args.engineFlags engineFlagOffline)]
        ++ args.originLines ++ [gpgsmKeylistLine args pattern],
      Leaves optionEphemeral line := by
    intro line member
    simp only [List.mem_append, List.mem_cons, List.not_mem_nil, or_false] at member
    rcases member with ((rfl | rfl) | origin) | rfl
    · exact leaves_flagLine (by simp [listingOptions]) (by decide) _
    · exact leaves_flagLine (by simp [listingOptions]) (by decide) _
    · exact leaves_originLines args ephemeral line origin
    · exact leaves_listing args _ _
  unfold isOn
  simp only [ConnectionEvent.lines, lines, serverOptions_take sets before behind options sent]
  have reached : (args.agentLines
        ++ [optionLine optionListMode (listModeValue args.mode),
          flagLine optionValidation (hasBit args.mode KeylistMode.validate)]).length < sent
      ↔ ephemeralPosition args ≤ sent := by
    simp only [ephemeralPosition, List.length_append, List.length_cons, List.length_nil]
    omega
  by_cases position : ephemeralPosition args ≤ sent
  · rw [if_pos (reached.mpr position), if_pos position]
    exact flagValue_isOn _
  · rw [if_neg (mt reached.mp position), if_neg position]

theorem isOn_keylistExt (options : ServerOptions) (args : ListingArgs) (patterns : List Str)
    (reserved : Bool) (sent : Nat)
    : isOn (serverOptions options (ConnectionEvent.keylistExt args patterns reserved sent).lines)
        optionEphemeral
      = isOn options optionEphemeral := by
  have ephemeral : optionEphemeral ∈ listingOptions := by simp [listingOptions]
  have leaves : ∀ line ∈ (ConnectionEvent.keylistExt args patterns reserved sent).lines,
      Leaves optionEphemeral line := by
    intro line member
    unfold ConnectionEvent.lines at member
    dsimp only at member
    split at member
    · cases member
    · have among := List.mem_of_mem_take member
      simp only [gpgsmKeylistExtOptions, List.mem_append, List.mem_cons, List.not_mem_nil,
        or_false] at among
      rcases among with ((rfl | rfl | rfl | rfl) | origin) | rfl
      · exact leaves_listMode (by decide) _
      · exact leaves_flagLine (by simp [listingOptions]) (by decide) _
      · exact leaves_flagLine (by simp [listingOptions]) (by decide) _
      · exact leaves_flagLine (by simp [listingOptions]) (by decide) _
      · exact leaves_originLines args ephemeral line origin
      · exact leaves_listing args _ _
  unfold isOn
  rw [serverOptions_of_leaves leaves]

theorem listingsMatch_iff (options : ServerOptions) (events : List ConnectionEvent)
    : ListingsMatch options events ↔ EphemeralAgrees (isOn options optionEphemeral) events := by
  induction events generalizing options with
  | nil => exact Iff.rfl
  | cons event later ih =>
      unfold ListingsMatch
      rw [ih]
      cases event with
      | other command =>
          have same : isOn (serverOptions options [command.line]) optionEphemeral
              = isOn options optionEphemeral := by
            unfold isOn
            rw [serverOptions_cons, serverOptions_nil,
              command.leaves (by simp [listingOptions]) options]
          simp only [EphemeralAgrees, ConnectionEvent.lines, same]
          exact and_iff_right (fun args absent => by cases absent)
      | keylist args pattern sent =>
          rw [isOn_keylist]
          refine and_iff_right ?_
          intro args' sentAll
          unfold ConnectionEvent.listing at sentAll
          dsimp only at sentAll
          split at sentAll
          · cases sentAll
            exact optionsMatch_keylist options args
          · cases sentAll
      | keylistExt args patterns reserved sent =>
          rw [isOn_keylistExt]
          refine and_congr_left fun _ => forall_congr' fun args' => ?_
          refine imp_congr_right fun sentAll => ?_
          unfold ConnectionEvent.listing at sentAll
          dsimp only at sentAll
          split at sentAll
          · next reached =>
              cases sentAll
              have allowed : reserved = false := by
                simpa using (Bool.and_eq_true_iff.mp reached).1
              simp only [ConnectionEvent.options, allowed, Bool.false_eq_true, if_false]
              exact optionsMatch_keylistExt_iff options args
          · cases sentAll

theorem flatMap_escapeChar_eq_iff (pattern : Str)
    : pattern.flatMap escapeChar = pattern ↔ ∀ c ∈ pattern, isReserved c = false := by
  have longer (text : Str) : text.length ≤ (text.flatMap escapeChar).length := by
    induction text with
    | nil => exact Nat.le_refl 0
    | cons c rest ih =>
        have positive : 1 ≤ (escapeChar c).length := by
          unfold escapeChar
          split_ifs
          · decide
          · decide
          · decide
          · exact Nat.le_refl 1
        rw [List.flatMap_cons, List.length_append, List.length_cons]
        omega
  constructor
  · intro same
    induction pattern with
    | nil => exact fun _ absent => absurd absent List.not_mem_nil
    | cons c rest ih =>
        rw [List.flatMap_cons] at same
        have plain : isReserved c = false := by
          by_contra reserved
          have three : (escapeChar c).length = 3 := by
            simp only [isReserved, Bool.not_eq_false, Bool.or_eq_true, beq_iff_eq] at reserved
            rcases reserved with (rfl | rfl) | rfl <;> decide
          have lengths := congrArg List.length same
          have rests := longer rest
          rw [List.length_append, three, List.length_cons] at lengths
          omega
        have single : escapeChar c = [c] := by
          simp only [isReserved, Bool.or_eq_false_iff, beq_eq_false_iff_ne] at plain
          obtain ⟨⟨percent, space⟩, plus⟩ := plain
          unfold escapeChar
          rw [if_neg percent, if_neg space, if_neg plus]
        rw [single] at same
        exact List.forall_mem_cons.mpr ⟨plain, ih (List.cons.inj same).2⟩
  · intro plain
    induction pattern with
    | nil => rfl
    | cons c rest ih =>
        obtain ⟨first, later⟩ := List.forall_mem_cons.mp plain
        simp only [isReserved, Bool.or_eq_false_iff, beq_eq_false_iff_ne] at first
        obtain ⟨⟨percent, space⟩, plus⟩ := first
        have single : escapeChar c = [c] := by
          unfold escapeChar
          rw [if_neg percent, if_neg space, if_neg plus]
        rw [List.flatMap_cons, single, ih later]
        rfl

theorem listingRequest_eq_iff {before after : ServerOptions} {args : ListingArgs}
    (first : OptionsMatch before args) (second : OptionsMatch after args) (pattern : Str)
    : listingRequest before (gpgsmKeylistLine args (some pattern))
        = listingRequest after (gpgsmKeylistExtLine args [pattern])
      ↔ ∀ c ∈ pattern, isReserved c = false := by
  have text : gpgsmKeylistLine args (some pattern) = gpgsmKeylistExtLine args [pattern]
      ↔ pattern.flatMap escapeChar = pattern := by
    simp only [gpgsmKeylistLine, gpgsmKeylistExtLine, Option.getD_some, List.map_cons,
      List.map_nil, List.intercalate_singleton, List.append_cancel_left_eq]
    exact eq_comm
  rw [← flatMap_escapeChar_eq_iff, ← text]
  simp only [listingRequest, ListingRequest.mk.injEq, first.listMode, second.listMode,
    first.validation, second.validation, first.ephemeral, second.ephemeral, first.secret,
    second.secret, first.offline, second.offline, true_and]

/-- On a new connection the options match whenever a listing is sent, exactly if every listing of
`gpgsm_keylist_ext` finds the option for ephemeral keys as it needs it. Then a pattern without
reserved characters is asked for in the same way by both entry points.
-/
theorem listing_options_match_iff (events : List ConnectionEvent)
    : (ListingsMatch (fun _ => none) events ↔ EphemeralAgrees false events)
      ∧ ∀ (before after : ServerOptions) (args : ListingArgs) (pattern : Str),
          OptionsMatch before args
          → OptionsMatch after args
          → (listingRequest before (gpgsmKeylistLine args (some pattern))
                = listingRequest after (gpgsmKeylistExtLine args [pattern])
              ↔ ∀ c ∈ pattern, isReserved c = false) :=
  ⟨listingsMatch_iff (fun _ => none) events,
    fun _ _ _ pattern first second => listingRequest_eq_iff first second pattern⟩

/-- A listing of ephemeral keys, reset, and then a listing without them. -/
def ephemeralThenNot : List ConnectionEvent :=
  [.keylist { mode := 129 } none 7, .other .reset, .keylistExt { mode := 1 } [str "alice"] false 5]

/-- The second listing still includes the ephemeral keys. -/
theorem ephemeral_option_left_set : ¬ ListingsMatch (fun _ => none) ephemeralThenNot := by
  intro fits
  have agrees := (listingsMatch_iff (fun _ => none) ephemeralThenNot).mp fits
  have sent : (ConnectionEvent.keylistExt { mode := 1 } [str "alice"] false 5).listing
      = some { mode := 1 } := rfl
  have same := agrees.1 { mode := 1 } sent
  revert same
  decide

end Gpgme
