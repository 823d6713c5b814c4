import Mathlib.Data.List.Infix
import OpenRun.Go.Strings

/-!
# The request handler of an app route

`createHandlerFunc` builds the `http.HandlerFunc` of a route. A request goes through early
hints, the call of the route's Starlark handler (and of the app's error handler when the call
fails), `handleResponse` for a struct the handler returned, the plugins' deferred cleanup, and
the response: a stream, JSON, text, a rendered page or block, or a redirect. Two deferred
calls end every request that has a handler: the cleanup, then the audit insert.

The model is the list of effects a request has outside the handler (`Effect`): what it writes
on the response and the calls it makes. Everything the handler gets back from outside (the
Starlark calls, the struct's attributes, `RunDeferredCleanup`, the templates, the encoders and
the writes) is a field of `Env`, for one request; the outcome of each checked write is read by
its position among the request's checked writes.

* No part of the final response is written before the plugins' deferred cleanup has
  succeeded: only the early hints' 103, errors, headers and calls come before the first
  successful cleanup (`cleanup_before_output`).
* The deferred cleanup runs after everything else, at most one cleanup runs before it, and
  the audit insert comes last, with status failure exactly when the handler's call or a plugin
  API failed, whatever the error handler or the response did (`handler_defers`).
* An HTML stream ends with its end marker exactly when no error was written
  (`stream_end_iff_no_error`).
* The client address read from the address `net/http` writes (`net.JoinHostPort`) is the
  host, brackets of IPv6 dropped, unless a proxy header names the client
  (`getRemoteIP_joinHostPort`).
-/

set_option autoImplicit false

namespace OpenRun.App

open OpenRun.Go (cutAt cutAt_append cutAt_of_not_mem)

/-! ## Requests, effects and the status the client sees -/

/-- A Go `http.Header`: each canonical key with its values. -/
abbrev Header := List (String × List String)

/-- `types.GetHTTPHeader`: the first value of the key, "" when there is none. -/
def getHTTPHeader (header : Header) (key : String) : String :=
  match header.lookup key with
  | some (val :: _) => val
  | _ => ""

/-- `apptype.HTML_TYPE`. -/
def htmlType : String := "HTML"

/-- `apptype.JSON`. -/
def jsonType : String := "JSON"

/-- `apptype.TEXT`. -/
def textType : String := "TEXT"

/-- The end marker of an HTML stream. -/
def streamEnd : String := "<!--cl_stream_end-->\n\n"

/-- `types.EventStatusSuccess` and `types.EventStatusFailure`. -/
inductive EventStatus
  | success
  | failure
  deriving DecidableEq, Repr

/-- What a request does outside the handler: on the response, and the calls it makes. -/
inductive Effect
  /-- `a.earlyHints(w, r)`: `Link` headers for the static files, and a 103. -/
  | earlyHints
  /-- `starlark.Call` of the route's handler, with the request or with no argument. -/
  | callHandler (withArgs : Bool)
  /-- `starlark.Call` of the app's error handler, with `{"error": msg}`. -/
  | callErrorHandler (msg : String)
  /-- A call of `deferredCleanup`, with the error of `action.RunDeferredCleanup`. -/
  | cleanup (err : Option String)
  /-- `http.Error(w, msg, http.StatusInternalServerError)`. -/
  | error (msg : String)
  /-- A header set on the response. -/
  | header (name value : String)
  /-- `http.Redirect(w, r, url, code)`. -/
  | redirect (url : String) (code : Int)
  /-- `w.WriteHeader(code)`. -/
  | writeHeader (code : Int)
  /-- `a.executeTemplate(w, page, block, data)`, which wrote the page or block. -/
  | render (page block : String)
  /-- A value written by an encoder or by `fmt.Fprint`. -/
  | body
  /-- A literal text written on the response. -/
  | write (text : String)
  /-- `flusher.Flush()`. -/
  | flush
  /-- `a.auditInsert(&event)`, with the event's operation, target, detail and status. -/
  | audit (operation target detail : String) (status : EventStatus)
  deriving DecidableEq, Repr

/-- An effect that writes the final response, other than an error. The 103 of the early hints
is an informational response sent before it, and is not one. -/
def Effect.isOutput : Effect → Bool
  | .redirect _ _ | .writeHeader _ | .render _ _ | .body | .write _ | .flush => true
  | _ => false

/-- A call of `deferredCleanup`. -/
def Effect.isCleanup : Effect → Bool
  | .cleanup _ => true
  | _ => false

/-! ## What the handler gets back from outside -/

/-- What a Starlark call returns: a struct (`ace.redirect`, `ace.response`) or another value. -/
inductive Ret (S V : Type)
  | struct (s : S)
  | value (v : V)

/-- An error of `starlark.Call`, with the first frame of its call stack formatted as
`Function %s, Position %s` when it is an `EvalError` ("" otherwise). -/
structure CallError where
  text : String
  firstFrame : String

/-- The message the handler reports for a call error: the first frame is added in dev mode. -/
def CallError.message (isDev : Bool) (e : CallError) : String :=
  if e.firstFrame ≠ "" ∧ isDev then e.text ++ " : " ++ e.firstFrame else e.text

/-- The `value` of a stream response: nil, not a sequence function, or the items it yields. -/
inductive StreamValue (I : Type)
  | nil
  | notSeq
  | seq (items : List I)

/-- `handlerResponse`: the empty map when there is no handler, else what `UnmarshalStarlark`
made of the value the handler returned. -/
inductive HandlerResponse (D : Type)
  | emptyMap
  | value (d : D)

/-- The results of the calls a request makes outside the handler. Structs are of type `S`,
other Starlark values of type `V`, Go values of type `D`, stream items of type `I`. -/
structure Env (S V D I : Type) where
  /-- `strings.ToUpper`. -/
  toUpper : String → String
  /-- `starlark.Call` of the handler, with the request or with no argument. -/
  callHandler : Bool → Except CallError (Ret S V)
  /-- `thread.Local(types.TL_PLUGIN_API_FAILED_ERROR)` after the call. -/
  pluginError : Option String
  /-- `starlark.Call` of the error handler with the message. -/
  callErrorHandler : String → Except CallError (Ret S V)
  /-- The error of the `n`-th call of `action.RunDeferredCleanup`, from 0. -/
  cleanup : Nat → Option String
  /-- The thread locals `TL_AUDIT_OPERATION`, `TL_AUDIT_TARGET` and `TL_AUDIT_DETAIL`. -/
  auditOperation : String
  auditTarget : String
  auditDetail : String
  /-- `apptype.GetStringAttr`. -/
  getStringAttr : S → String → Except String String
  /-- `apptype.GetIntAttr` and `apptype.GetBoolAttr`: the value, and the error. -/
  getIntAttr : S → String → Int × Option String
  getBoolAttr : S → String → Bool × Option String
  /-- `retStruct.Attr`. -/
  attr : S → String → Except String V
  /-- `starlark_type.UnmarshalStarlark`. -/
  unmarshal : V → Except String D
  /-- Whether the value is a map whose `is_stream` is `true`, and its `value`. -/
  isStream : D → Bool
  streamValue : D → StreamValue I
  /-- Whether the response writer is an `http.Flusher`. -/
  isFlusher : Bool
  /-- The error of `a.executeTemplate` for a page and a block. -/
  executeTemplate : String → String → Option String
  /-- The errors of the JSON encoding of the handler's response and of a struct's data. -/
  encode : HandlerResponse D → Option String
  encodeValue : D → Option String
  /-- The error of the `n`-th checked write on the response, from 0: a `fmt.Fprint` or a
  `w.Write` whose error the handler reads. The final write of a stream's end marker is not
  checked and takes no index. -/
  writeError : Nat → Option String
  /-- The errors of rendering a stream item into a block, and of encoding it. -/
  renderItem : String → I → Option String
  encodeItem : I → Option String

/-- What the handler reads of the `App`. -/
structure AppConfig where
  isDev : Bool
  /-- `serverConfig.System.EarlyHints`. -/
  systemEarlyHints : Bool
  /-- `codeConfig.Routing.EarlyHints`. -/
  routingEarlyHints : Bool
  /-- `a.errorHandler != nil`. -/
  hasErrorHandler : Bool
  /-- `a.auditInsert != nil`. -/
  hasAuditInsert : Bool

/-- What the handler reads of the request. -/
structure Request where
  method : String
  header : Header

variable {S V D I : Type} (env : Env S V D I)

/-! ## `handleResponse` -/

/-- A call of `deferredCleanup`: the cleanup, and on failure the 500 it writes. -/
def cleanupEffects : Option String → List Effect
  | none => [.cleanup none]
  | some err => [.cleanup (some err), .error err]

/-- `a.executeTemplate(w, page, block, data)`, with the 500 written on failure. -/
def Env.render (page block : String) : List Effect :=
  match env.executeTemplate page block with
  | none => [.render page block]
  | some err => [.error err]

/-- A value encoded straight onto the response: nothing is written when encoding fails. -/
def encodeEffects : Option String → List Effect
  | none => [.body]
  | some err => [.error err]

/-- `fmt.Fprint` onto the response, with the 500 written when the write fails. -/
def printEffects : Option String → List Effect
  | none => [.body]
  | some err => [.body, .error err]

/-- The redirect branch of `handleResponse`, for a struct with a `url`. An unreadable `code` or
`refresh` writes a 500, and the redirect goes on. -/
def Env.redirectResponse (s : S) (url : String) (cleanup : Option (Option String)) :
    List Effect × Bool × Option String :=
  let (code, err1) := env.getIntAttr s "code"
  let (refresh, err2) := env.getBoolAttr s "refresh"
  let before := (if err1.isSome || err2.isSome then [Effect.error "Invalid redirect response"] else []) ++
    (if refresh then [Effect.header "HX-Refresh" "true"] else [])
  match cleanup with
  | some (some err) => (before ++ cleanupEffects (some err), false, some err)
  | some none => (before ++ cleanupEffects none ++ [.redirect url code], true, none)
  | none => (before ++ [.redirect url code], true, none)

/-- `if deferredCleanup != nil && deferredCleanup() != nil { return true, nil }`, then the
effects. -/
def cleanupThen (cleanup : Option (Option String)) (effects : List Effect) : List Effect :=
  match cleanup with
  | none => effects
  | some none => .cleanup none :: effects
  | some (some err) => cleanupEffects (some err)

/-- The `HX-Retarget`, `HX-Reswap` and `HX-Redirect` headers of an `ace.response`, each when
it is set. -/
def hxHeaders (retarget reswap redirect : String) : List Effect :=
  (if retarget ≠ "" then [.header "HX-Retarget" retarget] else []) ++
  (if reswap ≠ "" then [.header "HX-Reswap" reswap] else []) ++
  (if redirect ≠ "" then [.header "HX-Redirect" redirect] else [])

/-- The end of the response branch of `handleResponse`, once the attributes are read: JSON,
text, or the block rendered with the `HX-` headers and the struct's code. -/
def Env.valueResponse (ty block retarget reswap redirect : String) (code : Int) (value : D)
    (cleanup : Option (Option String)) : List Effect :=
  if env.toUpper ty = jsonType then
    cleanupThen cleanup (.header "Content-Type" "application/json" :: encodeEffects (env.encodeValue value))
  else if env.toUpper ty = textType then
    cleanupThen cleanup (.header "Content-Type" "text/plain" :: printEffects (env.writeError 0))
  else
    hxHeaders retarget reswap redirect ++ cleanupThen cleanup (.writeHeader code :: env.render "" block)

/-- `handleResponse`: the effects, whether the response was handled, and the error the caller
reports when it was not. `cleanup` is what `deferredCleanup` returns, `none` when it is nil. -/
def Env.handleResponse (s : S) (rtype : String) (cleanup : Option (Option String)) :
    List Effect × Bool × Option String :=
  match env.getStringAttr s "url" with
  | .ok url => env.redirectResponse s url cleanup
  | .error _ =>
    match env.getStringAttr s "block" with
    | .error err => ([], false, some err)
    | .ok block =>
      match env.attr s "data" with
      | .error err => ([.error err], true, none)
      | .ok data =>
        match env.getStringAttr s "type" with
        | .error err => ([.error err], true, none)
        | .ok ty =>
          let ty := env.toUpper (if ty = "" then rtype else ty)
          if block = "" ∧ ty = htmlType then
            ([], false, some "block not defined in response and type is not json/text")
          else
            match env.getIntAttr s "code" with
            | (_, some err) => ([.error err], true, none)
            | (code, none) =>
              match env.getStringAttr s "retarget" with
              | .error err => ([.error err], true, none)
              | .ok retarget =>
                match env.getStringAttr s "reswap" with
                | .error err => ([.error err], true, none)
                | .ok reswap =>
                  match env.getStringAttr s "redirect" with
                  | .error err => ([.error err], true, none)
                  | .ok redirect =>
                    match env.unmarshal data with
                    | .error err => ([.error err], true, none)
                    | .ok value =>
                      (env.valueResponse ty block retarget reswap redirect code value cleanup,
                        true, none)

/-! ## `handleStreamResponse` -/

/-- A stream whose items are printed as text, each with one checked write: a text stream, or
an HTML stream without a block. -/
def printsItems (rtype fragment : String) : Bool :=
  rtype = textType ∨ (rtype = htmlType ∧ (fragment = "" ∨ fragment = "-"))

/-- The checked writes of one item, before its newline. -/
def itemWrites (rtype fragment : String) : Nat := if printsItems rtype fragment then 1 else 0

/-- One item of a stream, whose checked writes start at the `n`-th of the response: what
writing it does, and the error that ends the stream. -/
def Env.streamItem (rtype fragment : String) (n : Nat) (v : I) : List Effect × Option String :=
  if printsItems rtype fragment then
    match env.writeError n with
    | none => ([.body], none)
    | some err => ([.body, .error err], some err)
  else if rtype = htmlType then
    match env.renderItem fragment v with
    | none => ([.render "" fragment], none)
    | some err => ([.error err], some err)
  else if rtype = jsonType then
    match env.encodeItem v with
    | none => ([.body], none)
    | some err => ([.error err], some err)
  else ([], none)

/-- The loop over the stream's items, whose checked writes start at the `n`-th of the
response: each item, a newline and a flush; an HTML stream ends with its marker. -/
def Env.streamItems (rtype fragment : String) (n : Nat) : List I → List Effect
  | [] => if rtype = htmlType then [.write streamEnd, .flush] else []
  | v :: rest =>
    match env.streamItem rtype fragment n v with
    | (effects, some _) => effects
    | (effects, none) =>
      match env.writeError (n + itemWrites rtype fragment) with
      | some err => effects ++ [.write "\n", .error err]
      | none =>
        effects ++ [.write "\n", .flush] ++
          Env.streamItems rtype fragment (n + itemWrites rtype fragment + 1) rest

/-- `handleStreamResponse`. -/
def Env.handleStreamResponse (rtype fragment : String) (d : D) : List Effect :=
  .header "Content-Type" (if rtype = jsonType then "application/json"
    else if rtype = textType then "text/plain" else "text/html; charset=utf-8") ::
  match env.streamValue d with
  | .nil => [.error "stream value is nil"]
  | .notSeq => [.error "stream value is not a sequence function"]
  | .seq items =>
    if env.isFlusher then .writeHeader 200 :: env.streamItems rtype fragment 0 items
    else [.error "response writer does not support flushing"]

/-! ## `createHandlerFunc` -/

/-- A request that may update state: not a GET, HEAD or OPTIONS. -/
def isUpdateRequest (method : String) : Bool :=
  method ≠ "GET" ∧ method ≠ "HEAD" ∧ method ≠ "OPTIONS"

/-- The response for a value that is not a stream: JSON, text, the block for an htmx request,
a redirect to the referrer for a form post without htmx, or the page. -/
def Env.respondPlain (rtype fullHtml fragment : String) (isHtmx : Bool) (r : Request)
    (resp : HandlerResponse D) : List Effect :=
  if rtype = jsonType then
    .header "Content-Type" "application/json" :: .body ::
      match env.encode resp with
      | some err => [.error err]
      | none =>
        match env.writeError 0 with
        | some err => [.error err]
        | none => []
  else if rtype = textType then .header "Content-Type" "text/plain" :: printEffects (env.writeError 0)
  else if isHtmx ∧ fragment ≠ "" then env.render fullHtml fragment
  else if !isHtmx ∧ isUpdateRequest r.method ∧ fragment ≠ "" ∧ getHTTPHeader r.header "Referer" ≠ "" then
    [.redirect (getHTTPHeader r.header "Referer") 303]
  else env.render fullHtml ""

/-- The response once the handler is done and its cleanup succeeded (lines 300-359). -/
def Env.respond (rtype fullHtml fragment : String) (isHtmx : Bool) (r : Request)
    (resp : HandlerResponse D) : List Effect :=
  .header "Vary" "HX-Request" :: .header "Server" "OpenRun" ::
  match resp with
  | .value d =>
    if env.isStream d then env.handleStreamResponse rtype (if fragment ≠ "" then fragment else fullHtml) d
    else env.respondPlain rtype fullHtml fragment isHtmx r resp
  | .emptyMap => env.respondPlain rtype fullHtml fragment isHtmx r resp

/-- The handler's result: its error, or a plugin API failure, counts as the call's error. -/
def Env.handlerResult (hasArgs : Bool) : Except CallError (Ret S V) :=
  match env.callHandler hasArgs with
  | .error err => .error err
  | .ok ret =>
    match env.pluginError with
    | some err => .error ⟨err, ""⟩
    | none => .ok ret

/-- What the handler, or the error handler, returned: a struct goes to `handleResponse`,
another value is converted; `none` when the request ends here. -/
def Env.afterCall (rtype : String) : Ret S V → List Effect × Option (HandlerResponse D)
  | .struct s =>
    match env.handleResponse s rtype (some (env.cleanup 0)) with
    | (effects, true, _) => (effects, none)
    | (effects, false, err) =>
      (effects ++ [.error ("Error handling response: " ++ err.getD "%!s(<nil>)")], none)
  | .value v =>
    match env.unmarshal v with
    | .error err => ([.error err], none)
    | .ok d => ([], some (.value d))

/-- The call of the handler, and of the error handler when it fails (lines 199-294): the
effects, the audit status, and the response to write, `none` when the request ends here. -/
def Env.callPhase (app : AppConfig) (rtype : String) (hasArgs : Bool) :
    List Effect × EventStatus × Option (HandlerResponse D) :=
  match env.handlerResult hasArgs with
  | .ok ret => (.callHandler hasArgs :: (env.afterCall rtype ret).1, .success, (env.afterCall rtype ret).2)
  | .error err =>
    let msg := err.message app.isDev
    if app.hasErrorHandler then
      match env.callErrorHandler msg with
      | .error err2 =>
        ([.callHandler hasArgs, .callErrorHandler msg, .error (err2.message app.isDev)], .failure, none)
      | .ok ret =>
        (.callHandler hasArgs :: .callErrorHandler msg :: (env.afterCall rtype ret).1, .failure,
          (env.afterCall rtype ret).2)
    else ([.callHandler hasArgs, .error msg], .failure, none)

/-- With a handler, what runs before the deferred calls: the call, then the cleanup before the
response (line 296), then the response. -/
def Env.handledBody (app : AppConfig) (rtype fullHtml fragment : String) (hasArgs isHtmx : Bool)
    (r : Request) : List Effect :=
  match env.callPhase app rtype hasArgs with
  | (effects, _, none) => effects
  | (effects, _, some resp) =>
    effects ++ match env.cleanup (effects.countP Effect.isCleanup) with
      | some err => cleanupEffects (some err)
      | none => .cleanup none :: env.respond rtype fullHtml fragment isHtmx r resp

/-- The deferred audit insert, when the app audits and the handler set an operation. -/
def Env.auditEffects (app : AppConfig) (status : EventStatus) : List Effect :=
  if app.hasAuditInsert ∧ env.auditOperation ≠ "" then
    [.audit env.auditOperation env.auditTarget env.auditDetail status]
  else []

/-- `hasArgs`: the handler is called with the request unless its name ends in `_no_args`. -/
def hasArgs : Option String → Bool
  | none => false
  | some name => !decide ("_no_args".toList <:+ name.toList)

/-- An htmx request that is not boosted. -/
def isHtmxRequest (r : Request) : Bool :=
  getHTTPHeader r.header "Hx-Request" = "true" && !(getHTTPHeader r.header "Hx-Boosted" = "true")

/-- The early hints of a production GET navigation to an HTML page, unless it asks for a block. -/
def earlyHintsEffects (app : AppConfig) (rtype fragment : String) (r : Request) : List Effect :=
  if app.systemEarlyHints && rtype = htmlType && app.routingEarlyHints && !app.isDev &&
      r.method = "GET" && getHTTPHeader r.header "Sec-Fetch-Mode" = "navigate" &&
      !(isHtmxRequest r && fragment ≠ "") then [.earlyHints] else []

/-- The handler of a route, on one request: early hints, then without a handler the response
for the empty map; with a handler its body, then the deferred cleanup and audit insert, which
Go runs in the reverse order of their `defer`. -/
def Env.createHandlerFunc (app : AppConfig) (fullHtml fragment : String) (handler : Option String)
    (rtype : String) (r : Request) : List Effect :=
  let rtype := env.toUpper rtype
  earlyHintsEffects app rtype fragment r ++ match handler with
    | none => env.respond rtype fullHtml fragment (isHtmxRequest r) r .emptyMap
    | some _ =>
      let body := env.handledBody app rtype fullHtml fragment (hasArgs handler) (isHtmxRequest r) r
      body ++ cleanupEffects (env.cleanup (body.countP Effect.isCleanup)) ++
        env.auditEffects app (env.callPhase app rtype (hasArgs handler)).2.1

/-! ## No response before a successful cleanup -/

/-- The effects write no response, other than an error, before a successful cleanup. -/
def cleanFirst : List Effect → Bool
  | [] => true
  | e :: rest => e = .cleanup none || (!e.isOutput && cleanFirst rest)

theorem cleanFirst_append : ∀ {l₁ l₂ : List Effect}, cleanFirst l₁ → cleanFirst l₂ →
    cleanFirst (l₁ ++ l₂)
  | [], _, _, h₂ => h₂
  | e :: l₁, l₂, h₁, h₂ => by
    simp only [cleanFirst, List.cons_append, Bool.or_eq_true, Bool.and_eq_true] at h₁ ⊢
    exact h₁.imp_right fun ⟨quiet, rest⟩ => ⟨quiet, cleanFirst_append rest h₂⟩

theorem cleanFirst_of_quiet : ∀ {l : List Effect}, (∀ e ∈ l, e.isOutput = false) → cleanFirst l
  | [], _ => rfl
  | e :: l, quiet => by
    simp only [cleanFirst, Bool.or_eq_true, Bool.and_eq_true, Bool.not_eq_true']
    exact .inr ⟨quiet e (.head _), cleanFirst_of_quiet fun x hx => quiet x (.tail _ hx)⟩

@[simp] theorem cleanFirst_cleanup (l : List Effect) : cleanFirst (.cleanup none :: l) := by
  simp [cleanFirst]

/-- In effects that clean first, a successful cleanup comes before every output. -/
theorem cleanup_mem_of_cleanFirst : ∀ {pre : List Effect} {e : Effect} {post : List Effect},
    cleanFirst (pre ++ e :: post) → e.isOutput → Effect.cleanup none ∈ pre
  | [], e, _, h, out => by
    simp only [List.nil_append, cleanFirst, out, Bool.not_true, Bool.false_and, Bool.or_false,
      decide_eq_true_eq] at h
    subst h
    exact absurd out Bool.false_ne_true
  | x :: pre, _, _, h, out => by
    simp only [List.cons_append, cleanFirst, Bool.or_eq_true, Bool.and_eq_true,
      decide_eq_true_eq] at h
    rcases h with rfl | ⟨_, h⟩
    · exact .head _
    · exact .tail _ (cleanup_mem_of_cleanFirst h out)

theorem cleanupEffects_cleanFirst (r : Option String) : cleanFirst (cleanupEffects r) := by
  cases r <;> rfl

theorem redirectResponse_cleanFirst (s : S) (url : String) (r : Option String) :
    cleanFirst (env.redirectResponse s url (some r)).1 := by
  cases r <;> simp only [Env.redirectResponse] <;> split_ifs <;>
    simp [cleanFirst, cleanupEffects, Effect.isOutput]

theorem cleanupThen_cleanFirst (r : Option String) (effects : List Effect) :
    cleanFirst (cleanupThen (some r) effects) := by
  cases r <;> simp [cleanupThen, cleanupEffects, cleanFirst, Effect.isOutput]

theorem hxHeaders_quiet (retarget reswap redirect : String) :
    ∀ e ∈ hxHeaders retarget reswap redirect, e.isOutput = false ∧ e.isCleanup = false := by
  intro e he
  simp only [hxHeaders, List.mem_append] at he
  rcases he with (he | he) | he <;> split at he <;> simp_all [Effect.isOutput, Effect.isCleanup]

theorem valueResponse_cleanFirst (ty block retarget reswap redirect : String) (code : Int)
    (value : D) (r : Option String) :
    cleanFirst (env.valueResponse ty block retarget reswap redirect code value (some r)) := by
  unfold Env.valueResponse
  split_ifs
  · exact cleanupThen_cleanFirst r _
  · exact cleanupThen_cleanFirst r _
  · exact cleanFirst_append (cleanFirst_of_quiet fun e he => (hxHeaders_quiet _ _ _ e he).1)
      (cleanupThen_cleanFirst r _)

/-- What `handleResponse` can return: the redirect branch, an exit that writes at most an
error, or the response for the struct's value. -/
theorem handleResponse_ind (P : List Effect × Bool × Option String → Prop) (s : S) (rtype : String)
    (cleanup : Option (Option String))
    (redirect : ∀ url, P (env.redirectResponse s url cleanup))
    (stop : ∀ err, P ([], false, some err)) (fail : ∀ err, P ([.error err], true, none))
    (value : ∀ ty block retarget reswap redirect code value,
      P (env.valueResponse ty block retarget reswap redirect code value cleanup, true, none)) :
    P (env.handleResponse s rtype cleanup) := by
  unfold Env.handleResponse
  dsimp only
  repeat' split
  all_goals first | exact redirect _ | exact stop _ | exact fail _ | exact value _ _ _ _ _ _ _

theorem handleResponse_cleanFirst (s : S) (rtype : String) (r : Option String) :
    cleanFirst (env.handleResponse s rtype (some r)).1 :=
  handleResponse_ind env (fun p => cleanFirst p.1) s rtype (some r)
    (fun _ => redirectResponse_cleanFirst env _ _ _) (fun _ => rfl) (fun _ => rfl)
    (fun _ _ _ _ _ _ _ => valueResponse_cleanFirst env _ _ _ _ _ _ _ _)

theorem cleanFirst_cons_quiet {e : Effect} {l : List Effect} (quiet : e.isOutput = false)
    (h : cleanFirst l) : cleanFirst (e :: l) := by
  simp [cleanFirst, quiet, h]

theorem afterCall_cleanFirst (rtype : String) (ret : Ret S V) :
    cleanFirst (env.afterCall rtype ret).1 := by
  cases ret with
  | struct s =>
    have h := handleResponse_cleanFirst env s rtype (env.cleanup 0)
    simp only [Env.afterCall]
    split <;> rename_i heq <;> rw [heq] at h
    · exact h
    · exact cleanFirst_append h rfl
  | value v =>
    simp only [Env.afterCall]
    split <;> rfl

theorem callPhase_cleanFirst (app : AppConfig) (rtype : String) (hasArgs : Bool) :
    cleanFirst (env.callPhase app rtype hasArgs).1 := by
  unfold Env.callPhase
  dsimp only
  split
  · exact cleanFirst_cons_quiet rfl (afterCall_cleanFirst env rtype _)
  · split
    · split
      · rfl
      · exact cleanFirst_cons_quiet rfl (cleanFirst_cons_quiet rfl (afterCall_cleanFirst env rtype _))
    · rfl

theorem handledBody_cleanFirst (app : AppConfig) (rtype fullHtml fragment : String)
    (hasArgs isHtmx : Bool) (r : Request) :
    cleanFirst (env.handledBody app rtype fullHtml fragment hasArgs isHtmx r) := by
  have h := callPhase_cleanFirst env app rtype hasArgs
  unfold Env.handledBody
  split <;> rename_i heq <;> rw [heq] at h
  · exact h
  · refine cleanFirst_append h ?_
    split
    · exact cleanupEffects_cleanFirst _
    · exact cleanFirst_cleanup _

theorem auditEffects_cleanFirst (app : AppConfig) (status : EventStatus) :
    cleanFirst (env.auditEffects app status) := by
  unfold Env.auditEffects; split <;> rfl

/-- With a handler, a request writes no response before a successful cleanup. -/
theorem createHandlerFunc_cleanFirst (app : AppConfig) (fullHtml fragment name rtype : String)
    (r : Request) : cleanFirst (env.createHandlerFunc app fullHtml fragment (some name) rtype r) := by
  unfold Env.createHandlerFunc earlyHintsEffects
  refine cleanFirst_append (by split <;> rfl) (cleanFirst_append (cleanFirst_append ?_ ?_) ?_)
  · exact handledBody_cleanFirst env _ _ _ _ _ _ _
  · exact cleanupEffects_cleanFirst _
  · exact auditEffects_cleanFirst env _ _

/-- With a handler, every write of the final response other than an error comes after the
plugins' deferred cleanup has succeeded. The early hints (`Link` headers and a 103) are sent
before the handler runs and are not part of that response. -/
theorem cleanup_before_output (app : AppConfig) (fullHtml fragment name rtype : String)
    (r : Request) {pre post : List Effect} {e : Effect}
    (trace : env.createHandlerFunc app fullHtml fragment (some name) rtype r = pre ++ e :: post)
    (output : e.isOutput = true) : Effect.cleanup none ∈ pre :=
  cleanup_mem_of_cleanFirst (trace ▸ createHandlerFunc_cleanFirst env app fullHtml fragment name rtype r)
    output

/-- A handler that lists todos, with every call outside succeeding. -/
def listEnv : Env Unit String String String where
  toUpper s := ⟨s.toList.map Char.toUpper⟩
  callHandler _ := .ok (.value "[]")
  pluginError := none
  callErrorHandler _ := .ok (.value "")
  cleanup _ := none
  auditOperation := "list"
  auditTarget := "todos"
  auditDetail := ""
  getStringAttr _ _ := .error "no such attribute"
  getIntAttr _ _ := (0, some "no such attribute")
  getBoolAttr _ _ := (false, some "no such attribute")
  attr _ _ := .error "no such attribute"
  unmarshal v := .ok v
  isStream _ := false
  streamValue _ := .nil
  isFlusher := true
  executeTemplate _ _ := none
  encode _ := none
  encodeValue _ := none
  writeError _ := none
  renderItem _ _ := none
  encodeItem _ := none

/-- An audited production app without an error handler. -/
def auditedApp : AppConfig := ⟨false, false, false, false, true⟩

theorem cleanup_before_output_list :
    Effect.cleanup none ∈ [.callHandler true, .cleanup none, .header "Vary" "HX-Request",
      .header "Server" "OpenRun", .header "Content-Type" "application/json"] :=
  have trace : listEnv.createHandlerFunc auditedApp "index.go.html" "" (some "list") "json" ⟨"GET", []⟩ =
      [.callHandler true, .cleanup none, .header "Vary" "HX-Request", .header "Server" "OpenRun",
        .header "Content-Type" "application/json"] ++
        .body :: [.cleanup none, .audit "list" "todos" "" .success] := rfl
  cleanup_before_output listEnv auditedApp "index.go.html" "" "list" "json" ⟨"GET", []⟩ trace rfl

/-! ## The deferred cleanup and the audit insert -/

@[simp] theorem cleanupEffects_cleanups (r : Option String) :
    (cleanupEffects r).countP Effect.isCleanup = 1 := by
  cases r <;> rfl

@[simp] theorem render_cleanups (page block : String) :
    (env.render page block).countP Effect.isCleanup = 0 := by
  unfold Env.render; split <;> rfl

@[simp] theorem encodeEffects_cleanups (r : Option String) :
    (encodeEffects r).countP Effect.isCleanup = 0 := by
  cases r <;> rfl

@[simp] theorem printEffects_cleanups (r : Option String) :
    (printEffects r).countP Effect.isCleanup = 0 := by
  cases r <;> rfl

theorem redirectResponse_cleanups (s : S) (url : String) (r : Option String) :
    (env.redirectResponse s url (some r)).1.countP Effect.isCleanup ≤ 1 := by
  cases r <;> simp only [Env.redirectResponse] <;> split_ifs <;>
    simp [cleanupEffects, Effect.isCleanup]

theorem cleanupThen_cleanups (r : Option String) {effects : List Effect}
    (none_after : effects.countP Effect.isCleanup = 0) :
    (cleanupThen (some r) effects).countP Effect.isCleanup ≤ 1 := by
  cases r <;> simp [cleanupThen, cleanupEffects, Effect.isCleanup, none_after]

theorem valueResponse_cleanups (ty block retarget reswap redirect : String) (code : Int)
    (value : D) (r : Option String) :
    (env.valueResponse ty block retarget reswap redirect code value (some r)).countP
      Effect.isCleanup ≤ 1 := by
  have headers : (hxHeaders retarget reswap redirect).countP Effect.isCleanup = 0 :=
    List.countP_eq_zero.mpr fun e he => by simp [(hxHeaders_quiet _ _ _ e he).2]
  unfold Env.valueResponse
  split_ifs
  · exact cleanupThen_cleanups r (by simp [Effect.isCleanup])
  · exact cleanupThen_cleanups r (by simp [Effect.isCleanup])
  · rw [List.countP_append, headers, Nat.zero_add]
    exact cleanupThen_cleanups r (by simp [Effect.isCleanup])

theorem handleResponse_cleanups (s : S) (rtype : String) (r : Option String) :
    (env.handleResponse s rtype (some r)).1.countP Effect.isCleanup ≤ 1 :=
  handleResponse_ind env (fun p => p.1.countP Effect.isCleanup ≤ 1) s rtype (some r)
    (fun _ => redirectResponse_cleanups env _ _ _) (fun _ => Nat.zero_le _) (fun _ => Nat.zero_le _)
    (fun _ _ _ _ _ _ _ => valueResponse_cleanups env _ _ _ _ _ _ _ _)

/-- The call phase runs at most one cleanup, and none when the request goes on to a response. -/
theorem afterCall_cleanups (rtype : String) (ret : Ret S V) :
    (env.afterCall rtype ret).1.countP Effect.isCleanup ≤ 1 ∧
      ((env.afterCall rtype ret).2.isSome → (env.afterCall rtype ret).1 = []) := by
  cases ret with
  | struct s =>
    have h := handleResponse_cleanups env s rtype (env.cleanup 0)
    simp only [Env.afterCall]
    split <;> rename_i heq <;> rw [heq] at h
    · exact ⟨h, fun none => nomatch none⟩
    · simpa [Effect.isCleanup] using h
  | value v =>
    simp only [Env.afterCall]
    split <;> simp [Effect.isCleanup]

theorem callPhase_cleanups (app : AppConfig) (rtype : String) (hasArgs : Bool) :
    (env.callPhase app rtype hasArgs).1.countP Effect.isCleanup ≤ 1 ∧
      ((env.callPhase app rtype hasArgs).2.2.isSome →
        (env.callPhase app rtype hasArgs).1.countP Effect.isCleanup = 0) := by
  unfold Env.callPhase
  dsimp only
  split
  · obtain ⟨le, empty⟩ := afterCall_cleanups env rtype _
    refine ⟨by simpa [Effect.isCleanup] using le, fun going => ?_⟩
    simp [Effect.isCleanup, empty going]
  · split
    · split
      · simp [Effect.isCleanup]
      · obtain ⟨le, empty⟩ := afterCall_cleanups env rtype _
        refine ⟨by simpa [Effect.isCleanup] using le, fun going => ?_⟩
        simp [Effect.isCleanup, empty going]
    · simp [Effect.isCleanup]

/-- The audit status is failure exactly when the handler's call, or a plugin API, failed. -/
theorem callPhase_status (app : AppConfig) (rtype : String) (hasArgs : Bool) :
    (env.callPhase app rtype hasArgs).2.1 =
      if (env.handlerResult hasArgs).isOk then .success else .failure := by
  unfold Env.callPhase
  dsimp only
  split <;> rename_i heq <;> rw [heq]
  · rfl
  · show _ = EventStatus.failure
    split <;> (try split) <;> rfl

theorem streamItems_cleanups (rtype fragment : String) :
    ∀ (n : Nat) (items : List I), (env.streamItems rtype fragment n items).countP Effect.isCleanup = 0
  | _, [] => by unfold Env.streamItems; split <;> rfl
  | n, v :: rest => by
    have item : (env.streamItem rtype fragment n v).1.countP Effect.isCleanup = 0 := by
      unfold Env.streamItem; split_ifs <;> (try split) <;> rfl
    unfold Env.streamItems
    split <;> rename_i heq <;> rw [heq] at item
    · exact item
    · split <;> simp [List.countP_append, item, Effect.isCleanup, streamItems_cleanups]

/-- The response itself calls no cleanup. -/
theorem respond_cleanups (rtype fullHtml fragment : String) (isHtmx : Bool) (r : Request)
    (resp : HandlerResponse D) :
    (env.respond rtype fullHtml fragment isHtmx r resp).countP Effect.isCleanup = 0 := by
  have plain : (env.respondPlain rtype fullHtml fragment isHtmx r resp).countP Effect.isCleanup = 0 := by
    unfold Env.respondPlain
    split_ifs <;> (try split) <;> (try split) <;> simp [Effect.isCleanup]
  have stream : ∀ fragment d,
      (env.handleStreamResponse rtype fragment d).countP Effect.isCleanup = 0 := fun fragment d => by
    simp only [Env.handleStreamResponse, List.countP_cons, Effect.isCleanup, Bool.false_eq_true,
      if_false, Nat.add_zero]
    split
    · rfl
    · rfl
    · split <;> simp [Effect.isCleanup, streamItems_cleanups]
  unfold Env.respond
  split
  · split <;> simp [Effect.isCleanup, plain, stream]
  · simp [Effect.isCleanup, plain]

theorem handledBody_cleanups (app : AppConfig) (rtype fullHtml fragment : String)
    (hasArgs isHtmx : Bool) (r : Request) :
    (env.handledBody app rtype fullHtml fragment hasArgs isHtmx r).countP Effect.isCleanup ≤ 1 := by
  obtain ⟨le, none_before⟩ := callPhase_cleanups env app rtype hasArgs
  unfold Env.handledBody
  split <;> rename_i heq <;> rw [heq] at le none_before
  · exact le
  · have zero := none_before rfl
    split <;> simp [List.countP_append, zero, Effect.isCleanup, respond_cleanups]

@[simp] theorem earlyHintsEffects_cleanups (app : AppConfig) (rtype fragment : String) (r : Request) :
    (earlyHintsEffects app rtype fragment r).countP Effect.isCleanup = 0 := by
  unfold earlyHintsEffects; split <;> rfl

/-- With a handler, a request ends with the deferred cleanup, after at most one other cleanup,
and then the audit insert, whose status is failure exactly when the handler's call or a plugin
API failed, whatever the error handler and the response did. -/
theorem handler_defers (app : AppConfig) (fullHtml fragment name rtype : String) (r : Request) :
    ∃ body, env.createHandlerFunc app fullHtml fragment (some name) rtype r =
        body ++ cleanupEffects (env.cleanup (body.countP Effect.isCleanup)) ++
          env.auditEffects app
            (if (env.handlerResult (hasArgs (some name))).isOk then .success else .failure) ∧
      body.countP Effect.isCleanup ≤ 1 := by
  have le := handledBody_cleanups env app (env.toUpper rtype) fullHtml fragment (hasArgs (some name))
    (isHtmxRequest r) r
  refine ⟨earlyHintsEffects app (env.toUpper rtype) fragment r ++
    env.handledBody app (env.toUpper rtype) fullHtml fragment (hasArgs (some name)) (isHtmxRequest r) r,
    ?_, by simpa [List.countP_append] using le⟩
  simp only [Env.createHandlerFunc, callPhase_status, List.countP_append, earlyHintsEffects_cleanups,
    Nat.zero_add, List.append_assoc]

/-! ## Streams -/

theorem streamItem_spec (rtype fragment : String) (n : Nat) (v : I) :
    (∀ text, Effect.write text ∉ (env.streamItem rtype fragment n v).1) ∧
      ∀ err, Effect.error err ∈ (env.streamItem rtype fragment n v).1 ↔
        (env.streamItem rtype fragment n v).2 = some err := by
  unfold Env.streamItem
  split_ifs <;> (try split) <;> simp [eq_comm]

theorem streamItems_end_iff (fragment : String) : ∀ (n : Nat) (items : List I),
    Effect.write streamEnd ∈ env.streamItems htmlType fragment n items ↔
      ∀ err, Effect.error err ∉ env.streamItems htmlType fragment n items
  | _, [] => by simp [Env.streamItems]
  | n, v :: rest => by
    obtain ⟨noWrite, errors⟩ := streamItem_spec env htmlType fragment n v
    have newline : streamEnd ≠ "\n" := by decide
    unfold Env.streamItems
    split
    next _ effects _ heq =>
      rw [heq] at noWrite errors
      simp only [noWrite, false_iff, not_forall, not_not]
      exact ⟨_, (errors _).mpr rfl⟩
    next _ effects heq =>
      rw [heq] at noWrite errors
      have quiet : ∀ err, Effect.error err ∉ effects := fun err h => nomatch (errors err).mp h
      split
      · simp [noWrite, quiet, newline]
      · simp [noWrite, quiet, newline, streamItems_end_iff fragment _ rest]

/-- An HTML stream ends with its end marker exactly when no error was written on it. -/
theorem stream_end_iff_no_error (fragment : String) (d : D) :
    Effect.write streamEnd ∈ env.handleStreamResponse htmlType fragment d ↔
      ∀ err, Effect.error err ∉ env.handleStreamResponse htmlType fragment d := by
  rcases stream : env.streamValue d with _ | _ | items <;>
    simp only [Env.handleStreamResponse, stream, List.mem_cons, List.mem_singleton, reduceCtorEq,
      false_or, or_false, List.not_mem_nil, not_false_eq_true, implies_true]
  · simp
  · simp
  · split <;> simp [streamItems_end_iff]

/-! ## The client's address -/

/-- `getRemoteIP`: the `X-Real-IP` header (canonically `X-Real-Ip`), else `X-Forwarded-For`,
else the host of the connection's address, with the brackets of an IPv6 address dropped;
`none` where `remoteIP[1:]` slices an empty string, which panics. -/
def getRemoteIP (header : Header) (remoteAddr : String) : Option String :=
  let remoteIP := getHTTPHeader header "X-Real-Ip"
  let remoteIP := if remoteIP = "" then getHTTPHeader header "X-Forwarded-For" else remoteIP
  if remoteIP ≠ "" then some remoteIP
  else if remoteAddr ≠ "" then
    let bracket := cutAt ']' remoteAddr.toList
    if bracket.2.2 then
      match bracket.1 with
      | [] => none
      | _ :: host => some ⟨host⟩
    else some ⟨(cutAt ':' remoteAddr.toList).1⟩
  else some remoteIP

/-- `net.JoinHostPort`, which `net/http` uses to write `RemoteAddr`: an IPv6 host is put in
brackets. -/
def joinHostPort (host port : String) : String :=
  if ':' ∈ host.toList then "[" ++ host ++ "]:" ++ port else host ++ ":" ++ port

/-- The address `net/http` writes for a host and a port gives back the host, unless a proxy
header names the client: `X-Real-IP` first, then `X-Forwarded-For`, whose whole value is
returned. -/
theorem getRemoteIP_joinHostPort (header : Header) {host port : String}
    (hostClean : ']' ∉ host.toList) (portClean : ']' ∉ port.toList) :
    getRemoteIP header (joinHostPort host port) =
      some (if getHTTPHeader header "X-Real-Ip" ≠ "" then getHTTPHeader header "X-Real-Ip"
        else if getHTTPHeader header "X-Forwarded-For" ≠ "" then getHTTPHeader header "X-Forwarded-For"
        else host) := by
  unfold getRemoteIP
  by_cases real : getHTTPHeader header "X-Real-Ip" = ""
  · by_cases forwarded : getHTTPHeader header "X-Forwarded-For" = ""
    · have address : joinHostPort host port ≠ "" := by
        unfold joinHostPort; split <;> simp [String.ext_iff]
      simp only [real, forwarded, if_true, ne_eq, not_true_eq_false, if_false, address,
        not_false_eq_true]
      by_cases colon : ':' ∈ host.toList
      · have list : (joinHostPort host port).toList =
            ('[' :: host.toList) ++ ']' :: ':' :: port.toList := by
          rw [joinHostPort, if_pos colon]; simp [String.toList]
        rw [list, cutAt_append _ _ (by simpa using hostClean)]; rfl
      · have list : (joinHostPort host port).toList = host.toList ++ ':' :: port.toList := by
          rw [joinHostPort, if_neg colon]; simp [String.toList]
        have clean : ']' ∉ host.toList ++ ':' :: port.toList := by
          simp only [List.mem_append, List.mem_cons, hostClean, portClean]; decide
        rw [list, cutAt_of_not_mem _ clean, cutAt_append _ _ colon]
        rfl
    · simp [real, forwarded]
  · simp [real]

theorem getRemoteIP_joinHostPort_loopback :
    ']' ∉ "::1".toList ∧ ']' ∉ "8080".toList ∧
      getRemoteIP [] (joinHostPort "::1" "8080") = some "::1" :=
  ⟨by decide, by decide, getRemoteIP_joinHostPort [] (by decide) (by decide)⟩

end OpenRun.App
