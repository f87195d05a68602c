import Multifrost.Bindings.ErrorReading
import Multifrost.Bindings.Split

/-!
# Where an error comes from, as the callers see it

An error frame says who sent it, in the envelope, and what kind of error it is, in the body.  Python
goes by the first and the other bindings by the second, each with its own table.  All five put an
error on the level of its sender iff the kind is the one the tables agree on, and they can all read
the body (`originPreserved_iff`).
-/

namespace Multifrost.Bindings

open MsgPack (Value)
open Router (routerPeerId)
open Rust (IsErrorMap)

/-- Whose error it is: the router's, the service's, or neither's, such as a malformed frame. -/
inductive Level
  | router
  | service
  | other
deriving DecidableEq

inductive Caller
  | rust
  | javaScript
  | go
  | php
  | python

def rustLevel : Rust.MultifrostError → Level
  | .routerUnavailable _ => .router
  | .remoteCallError _ => .service
  | _ => .other

def javaScriptLevel : JavaScript.MultifrostError → Level
  | .routerError .. => .router
  | .remoteCallError .. => .service

def goLevel : Go.Error → Level
  | .routerError .. => .router
  | .remoteCallError .. => .service

def phpLevel : Php.MultifrostException → Level
  | .routerError .. => .router
  | .remoteCallError .. => .service

def pythonLevel : Python.MultifrostError → Level
  | .routerError .. => .router
  | .remoteCallError .. => .service

/-! ### The libraries of the callers -/

/-- A reader of the format, and what the bindings make of what is read: how deeply the libraries of
Rust, JavaScript and Python let a value nest, the extensions that the JavaScript library takes and the
message of an `Error`, the PHP library, and `str` of Python. -/
structure CallerLibraries where
  read : Bytes → Except String Value
  rustNests : Value → Bool
  javaScriptNests : Value → Bool
  pythonNests : Value → Bool
  unpackr : JavaScript.Unpackr
  text : JavaScript.JsValue → Option String
  php : Php.PeerTransport.Libraries
  str : Value → String

/-- The bytes are those of `v`, and the libraries do what they say. -/
structure CallerLibraries.Reads (libs : CallerLibraries) (bodyBytes : Bytes) (v : Value) : Prop where
  read_eq : libs.read bodyBytes = .ok v
  /-- the format has integers of 64 bits -/
  integers : v.everywhere Rust.integerNode = true
  php_decode : v.everywhere Php.mapKeyNode = true →
    libs.php.decode bodyBytes = .ok (Php.bigIntAsStr v)
  text_string : ∀ s, libs.text (.string s) = some s
  unpackr_lawful : libs.unpackr.Lawful
  safeKey_kind : libs.unpackr.safeKey (.str JavaScript.protoKey) ≠ "kind"
  safeKey_message : libs.unpackr.safeKey (.str JavaScript.protoKey) ≠ "message"

/-- A reader that refuses what is nested too deeply for it. -/
def readNested (nests : Value → Bool) (read : Bytes → Except String Value) (bodyBytes : Bytes) :
    Except String Value := do
  let v ← read bodyBytes
  if nests v then .ok v else .error "depth limit exceeded"

theorem readNested_of_nests {nests : Value → Bool} {read : Bytes → Except String Value}
    {bodyBytes : Bytes} {v : Value} (hread : read bodyBytes = .ok v) (h : nests v = true) :
    readNested nests read bodyBytes = .ok v := by
  unfold readNested
  rw [hread]
  exact if_pos h

theorem readNested_of_not_nests {nests : Value → Bool} {read : Bytes → Except String Value}
    {bodyBytes : Bytes} {v : Value} (hread : read bodyBytes = .ok v) (h : ¬ nests v = true) :
    readNested nests read bodyBytes = .error "depth limit exceeded" := by
  unfold readNested
  rw [hread]
  exact if_neg h

section Surface

variable (libs : CallerLibraries)

/-- The error frame with the sender `fromPeer` and the body `bodyBytes`, as a caller reports it. -/
def surface (fromPeer : String) (bodyBytes : Bytes) : Caller → Level
  | .rust =>
    match Rust.decodeRouterOrPeerError (readNested libs.rustNests libs.read) bodyBytes with
    | .ok err => rustLevel err
    | .error err => rustLevel err
  | .javaScript =>
    match JavaScript.errorFromFrame (readNested libs.javaScriptNests libs.read) libs.unpackr libs.text
      bodyBytes with
    | some err => javaScriptLevel err
    | none => .other
  | .go => goLevel (Go.errorFromFrame libs.read bodyBytes)
  | .php =>
    match (Php.PeerTransport.throwWire libs.php bodyBytes :
      Except Php.PeerTransport.Exception Unit) with
    | .error (.multifrost exception) => phpLevel exception
    | _ => .other
  | .python =>
    match Python.errorFromFrame libs.str (readNested libs.pythonNests libs.read) fromPeer
      bodyBytes with
    | .ok err => pythonLevel err
    | .error _ => .other

/-- Every caller reports a router-level error iff the router sent it, and a service-level error for
what a service sent. -/
def OriginPreserved (fromPeer : String) (bodyBytes : Bytes) : Prop :=
  ∀ caller, (surface libs fromPeer bodyBytes caller = .router ↔ fromPeer = routerPeerId) ∧
    (fromPeer ≠ routerPeerId → surface libs fromPeer bodyBytes caller = .service)

/-- No library finds a body nested too deeply. -/
def CallerLibraries.nest (v : Value) : Bool :=
  libs.rustNests v && libs.javaScriptNests v && libs.pythonNests v

/-- The stack and the details are such as Rust takes, and the libraries of JavaScript and Python take
the body. -/
structure ReadByAll (kvs : List (String × Value)) : Prop where
  nested : libs.nest (Value.ofEntries kvs) = true
  stack : isTextOrNil ((kvs.lookup "stack").getD .nil) = true
  details : ((kvs.lookup "details").getD .nil).everywhere Rust.plainNode = true
  taken : (Value.ofEntries kvs).everywhere (JavaScript.takenNode libs.unpackr) = true
  limits : (Value.ofEntries kvs).everywhere Python.unpackbNode = true

end Surface

/-! ### One table at a time -/

theorem goLevel_errorFromWire (body : ErrorBody) :
    goLevel (Go.errorFromWire body) =
      if body.kind = "application" ∨ body.kind = "remote" then .service else .router := by
  unfold Go.errorFromWire
  split <;> simp_all [goLevel]

theorem phpLevel_errorFromWire (body : ErrorBody) :
    phpLevel (Php.errorFromWire body) =
      if body.kind = "application" ∨ body.kind = "remote" then .service else .router := by
  unfold Php.errorFromWire
  split <;> simp_all [phpLevel]

/-- The level of a body that Rust reads. -/
def rustKindLevel (kind : String) : Level :=
  if kind = "router" then .router
  else if kind = "protocol" ∨ kind = "library" then .other
  else .service

theorem rustLevel_errorOfKind (body : Router.ErrorBody) :
    rustLevel (Rust.errorOfKind body) = rustKindLevel body.kind := by
  unfold Rust.errorOfKind rustKindLevel
  split <;> simp_all [rustLevel]

/-- What each caller makes of a body that it reads. -/
def tableLevel (fromPeer kind : String) : Caller → Level
  | .rust => rustKindLevel kind
  | .javaScript => if kind = "application" ∨ kind = "service" then .service else .router
  | .go | .php => if kind = "application" ∨ kind = "remote" then .service else .router
  | .python => if fromPeer = routerPeerId then .router else .service

/-! ### One caller at a time -/

section Callers

variable {libs : CallerLibraries} {fromPeer : String} {bodyBytes : Bytes}
  {kvs : List (String × Value)} {code message kind : String}

/-- What holds everywhere in a map holds in what is stored under a name. -/
theorem everywhere_lookup {p : Value → Bool} (h : (Value.ofEntries kvs).everywhere p = true)
    (hnil : p .nil = true) (name : String) :
    ((kvs.lookup name).getD .nil).everywhere p = true := by
  cases hlookup : kvs.lookup name with
  | none => exact hnil
  | some v =>
    obtain ⟨before, after, rfl, -⟩ := List.lookup_eq_some_iff.mp hlookup
    have hmem : (name, v) ∈ before ++ (name, v) :: after := by simp
    exact ((MsgPack.everywhere_map.mp h).2 _ (List.mem_map.mpr ⟨_, hmem, rfl⟩)).2

theorem surface_rust (h : IsErrorMap kvs code message kind)
    (hreads : libs.Reads bodyBytes (.ofEntries kvs)) :
    surface libs fromPeer bodyBytes .rust =
      if libs.rustNests (.ofEntries kvs) = true ∧
          isTextOrNil ((kvs.lookup "stack").getD .nil) = true ∧
          ((kvs.lookup "details").getD .nil).everywhere Rust.plainNode = true then
        rustKindLevel kind
      else .other := by
  have hintegers := everywhere_lookup hreads.integers rfl "details"
  have hstack := @Rust.exists_optionString ((kvs.lookup "stack").getD .nil)
  have hdetails := Rust.exists_optionWireValue hintegers
  unfold surface Rust.decodeRouterOrPeerError
  by_cases hnests : libs.rustNests (.ofEntries kvs) = true
  · rw [Rust.decodeErrorBody_of_isErrorMap h (readNested_of_nests hreads.read_eq hnests)]
    cases hstackOf : Rust.optionString ((kvs.lookup "stack").getD .nil) with
    | error err =>
      have hnot : isTextOrNil ((kvs.lookup "stack").getD .nil) ≠ true := by
        rw [ne_eq, ← hstack, hstackOf]
        rintro ⟨stack, hok⟩
        cases hok
      rw [if_neg fun hall => hnot hall.2.1]
      rfl
    | ok stack =>
      cases hdetailsOf : Rust.optionWireValue ((kvs.lookup "details").getD .nil) with
      | error err =>
        have hnot : ((kvs.lookup "details").getD .nil).everywhere Rust.plainNode ≠ true := by
          rw [ne_eq, ← hdetails, hdetailsOf]
          rintro ⟨details, hok⟩
          cases hok
        rw [if_neg fun hall => hnot hall.2.2]
        rfl
      | ok details =>
        rw [if_pos ⟨hnests, hstack.mp ⟨stack, hstackOf⟩, hdetails.mp ⟨details, hdetailsOf⟩⟩]
        exact rustLevel_errorOfKind _
  · rw [if_neg fun hall => hnests hall.1, Rust.decodeErrorBody,
      readNested_of_not_nests hreads.read_eq hnests]
    rfl

theorem surface_javaScript (h : IsErrorMap kvs code message kind)
    (hreads : libs.Reads bodyBytes (.ofEntries kvs)) :
    surface libs fromPeer bodyBytes .javaScript =
      if libs.javaScriptNests (.ofEntries kvs) = true ∧
          (Value.ofEntries kvs).everywhere (JavaScript.takenNode libs.unpackr) = true then
        if kind = "application" ∨ kind = "service" then .service else .router
      else .other := by
  unfold surface
  by_cases hnests : libs.javaScriptNests (.ofEntries kvs) = true
  · rw [JavaScript.errorFromFrame_ofEntries hreads.unpackr_lawful hreads.safeKey_kind
      hreads.safeKey_message (hreads.text_string message) h
      (readNested_of_nests hreads.read_eq hnests), hnests]
    simp only [true_and]
    split_ifs <;> rfl
  · rw [if_neg fun hall => hnests hall.1, JavaScript.errorFromFrame,
      readNested_of_not_nests hreads.read_eq hnests]
    rfl

theorem surface_python (h : IsErrorMap kvs code message kind)
    (hreads : libs.Reads bodyBytes (.ofEntries kvs)) :
    surface libs fromPeer bodyBytes .python =
      if libs.pythonNests (.ofEntries kvs) = true ∧
          (Value.ofEntries kvs).everywhere Python.unpackbNode = true then
        if fromPeer = routerPeerId then .router else .service
      else .other := by
  unfold surface
  by_cases hnests : libs.pythonNests (.ofEntries kvs) = true
  · obtain ⟨body, hbody⟩ :=
      Python.exists_errorFromFrame h (readNested_of_nests hreads.read_eq hnests)
    rw [hbody, hnests]
    simp only [true_and]
    split_ifs <;> rfl
  · rw [if_neg fun hall => hnests hall.1, Python.errorFromFrame,
      readNested_of_not_nests hreads.read_eq hnests]
    rfl

/-- Go reads what Rust reads. -/
theorem surface_go (h : IsErrorMap kvs code message kind)
    (hreads : libs.Reads bodyBytes (.ofEntries kvs))
    (hstack : isTextOrNil ((kvs.lookup "stack").getD .nil) = true)
    (hdetails : ((kvs.lookup "details").getD .nil).everywhere Rust.plainNode = true) :
    surface libs fromPeer bodyBytes .go =
      if kind = "application" ∨ kind = "remote" then .service else .router := by
  have hnode : ∀ v, Rust.plainNode v = true → Go.interfaceNode v = true := by
    intro v hv
    cases v with
    | map => cases hv
    | ext => cases hv
    | _ => rfl
  obtain ⟨body, hbody, rfl⟩ := Go.exists_decodeWireErrorBody h hreads.read_eq
    hstack (MsgPack.everywhere_imp hnode hdetails)
  unfold surface Go.errorFromFrame
  rw [hbody]
  exact goLevel_errorFromWire body

/-- PHP reads what Rust and Python read. -/
theorem surface_php (h : IsErrorMap kvs code message kind)
    (hreads : libs.Reads bodyBytes (.ofEntries kvs))
    (hstack : isTextOrNil ((kvs.lookup "stack").getD .nil) = true)
    (hlimits : (Value.ofEntries kvs).everywhere Python.unpackbNode = true) :
    surface libs fromPeer bodyBytes .php =
      if kind = "application" ∨ kind = "remote" then .service else .router := by
  have hnode : ∀ v, Python.unpackbNode v = true → Php.mapKeyNode v = true := by
    intro v hv
    cases v with
    | map kvs =>
      obtain ⟨-, hkeys⟩ := Bool.and_eq_true_iff.mp hv
      refine List.all_eq_true.mpr fun kv hkv => ?_
      have hkey := List.all_eq_true.mp hkeys kv hkv
      revert hkey
      cases kv.1 <;> simp
    | _ => rfl
  have hdecode := hreads.php_decode (MsgPack.everywhere_imp hnode hlimits)
  obtain ⟨stack, details, hbody⟩ := Php.exists_decodeErrorBody libs.php h hdecode hstack
  unfold surface Php.PeerTransport.throwWire
  rw [hbody]
  exact phpLevel_errorFromWire _

end Callers

/-! ### All callers together -/

/-- A level of its own is not that of a body that is not read. -/
theorem of_level {p : Prop} [Decidable p] {level found : Level} (hlevel : level ≠ .other)
    (h : (if p then found else .other) = level) : p := by
  by_contra hp
  rw [if_neg hp] at h
  exact hlevel h.symm

theorem CallerLibraries.nest_iff {libs : CallerLibraries} {v : Value} :
    libs.nest v = true ↔
      libs.rustNests v = true ∧ libs.javaScriptNests v = true ∧ libs.pythonNests v = true := by
  rw [CallerLibraries.nest, Bool.and_eq_true, Bool.and_eq_true, and_assoc]

theorem originPreserved_iff_forall {libs : CallerLibraries} {fromPeer : String}
    {bodyBytes : Bytes} :
    OriginPreserved libs fromPeer bodyBytes ↔ ∀ caller,
      surface libs fromPeer bodyBytes caller =
        if fromPeer = routerPeerId then .router else .service := by
  apply forall_congr'
  intro caller
  by_cases hfrom : fromPeer = routerPeerId
  · simp [hfrom]
  · rw [if_neg hfrom]
    constructor
    · exact fun h => h.2 hfrom
    · intro h
      refine ⟨?_, fun _ => h⟩
      rw [h]
      exact ⟨fun hlevel => (nomatch hlevel), fun hrouter => absurd hrouter hfrom⟩

section

variable {libs : CallerLibraries} {fromPeer : String} {bodyBytes : Bytes}
  {kvs : List (String × Value)} {code message kind : String}
  (h : IsErrorMap kvs code message kind) (hreads : libs.Reads bodyBytes (.ofEntries kvs))

include h hreads

/-- Who reports a level of its own has read the body. -/
theorem readByAll_of_surface {level : Level} (hlevel : level ≠ .other)
    (hall : ∀ caller, surface libs fromPeer bodyBytes caller = level) : ReadByAll libs kvs := by
  have hrust := hall .rust
  have hjavaScript := hall .javaScript
  have hpython := hall .python
  rw [surface_rust h hreads] at hrust
  rw [surface_javaScript h hreads] at hjavaScript
  rw [surface_python h hreads] at hpython
  obtain ⟨hrustNests, hstack, hdetails⟩ := of_level hlevel hrust
  obtain ⟨hjavaScriptNests, htaken⟩ := of_level hlevel hjavaScript
  obtain ⟨hpythonNests, hlimits⟩ := of_level hlevel hpython
  refine ⟨?_, hstack, hdetails, htaken, hlimits⟩
  exact CallerLibraries.nest_iff.mpr ⟨hrustNests, hjavaScriptNests, hpythonNests⟩

/-- A body that all read is reported by each caller as its table says. -/
theorem surface_of_readByAll (fromPeer : String) (hall : ReadByAll libs kvs) (caller : Caller) :
    surface libs fromPeer bodyBytes caller = tableLevel fromPeer kind caller := by
  obtain ⟨hrust, hjavaScript, hpython⟩ := CallerLibraries.nest_iff.mp hall.nested
  cases caller with
  | rust => rw [surface_rust h hreads, if_pos ⟨hrust, hall.stack, hall.details⟩, tableLevel]
  | javaScript => rw [surface_javaScript h hreads, if_pos ⟨hjavaScript, hall.taken⟩, tableLevel]
  | go => exact surface_go h hreads hall.stack hall.details
  | php => exact surface_php h hreads hall.stack hall.limits
  | python => rw [surface_python h hreads, if_pos ⟨hpython, hall.limits⟩, tableLevel]

/-- An error of a service: of the kinds that JavaScript and Go take for a service's, one is
common. -/
theorem originPreserved_of_peer (hfrom : fromPeer ≠ routerPeerId) :
    OriginPreserved libs fromPeer bodyBytes ↔ kind = "application" ∧ ReadByAll libs kvs := by
  rw [originPreserved_iff_forall, if_neg hfrom]
  constructor
  · intro hlevel
    have hall := readByAll_of_surface h hreads (by decide) hlevel
    have htable := surface_of_readByAll h hreads fromPeer hall
    have hjavaScript := (htable .javaScript).symm.trans (hlevel .javaScript)
    have hgo := (htable .go).symm.trans (hlevel .go)
    unfold tableLevel at hjavaScript hgo
    -- JavaScript takes `service` as well and Go `remote`, but neither the other
    split_ifs at hjavaScript hgo with hkind hkind'
    refine ⟨?_, hall⟩
    rcases hkind with hkind | hkind
    · exact hkind
    · rw [hkind] at hkind'
      exact absurd hkind' (by decide)
  · rintro ⟨rfl, hall⟩ caller
    rw [surface_of_readByAll h hreads fromPeer hall]
    cases caller with
    | python => exact if_neg hfrom
    | _ => rfl

end

/-- What the JavaScript library writes for `undefined`. -/
def undefinedExt : Value := .ext 0 [0]

theorem isErrorMap_toMapping (body : ErrorBody) :
    IsErrorMap (Python.toMapping body) body.code body.message body.kind := by
  obtain ⟨code, message, kind, stack, details⟩ := body
  have hnodup : ((Python.toMapping ⟨code, message, kind, stack, details⟩).map Prod.fst).Nodup := by
    cases stack <;> cases details <;> simp [Python.toMapping]
  exact ⟨hnodup, rfl, rfl, rfl⟩

/-- What is absent is as if it were nil. -/
theorem lookup_toMapping (body : ErrorBody) :
    ((Python.toMapping body).lookup "stack").getD .nil = body.stack.elim .nil .str ∧
      ((Python.toMapping body).lookup "details").getD .nil = body.details := by
  obtain ⟨code, message, kind, stack, details⟩ := body
  cases stack <;> cases details <;> exact ⟨rfl, rfl⟩

theorem isErrorMap_entries (failure : JavaScript.CallFailure) :
    ∃ code message, IsErrorMap (ServiceFailure.entries undefinedExt (.javaScript failure)) code
      message "application" := by
  cases failure <;> refine ⟨_, _, ?_, rfl, rfl, rfl⟩ <;>
    exact (by decide : ["code", "message", "kind", "stack", "details"].Nodup)

/-- The failures whose errors all callers report as a service's. -/
def ServiceFailure.reported : ServiceFailure → Prop
  | .rust (.application _) => True
  | .go (.remoteCallError _) => True
  | .php (.remoteCallError _) => True
  | .python (.raised err) => err.kind = "application" ∧ err.details.everywhere Rust.plainNode = true
  | _ => False

section Services

variable {libs : CallerLibraries} {fromPeer : String} {bodyBytes : Bytes}

theorem originPreserved_of_toMapping (hfrom : fromPeer ≠ routerPeerId) {body : ErrorBody}
    (hreads : libs.Reads bodyBytes (.ofEntries (Python.toMapping body)))
    (hnested : libs.nest (Value.ofEntries (Python.toMapping body)) = true)
    (htaken : (Value.ofEntries (Python.toMapping body)).everywhere
      (JavaScript.takenNode libs.unpackr) = true)
    (hlimits : (Value.ofEntries (Python.toMapping body)).everywhere Python.unpackbNode = true) :
    OriginPreserved libs fromPeer bodyBytes ↔
      body.kind = "application" ∧ body.details.everywhere Rust.plainNode = true := by
  obtain ⟨hstack, hdetails⟩ := lookup_toMapping body
  rw [originPreserved_of_peer (isErrorMap_toMapping body) hreads hfrom]
  refine and_congr_right fun _ => ⟨fun hall => hdetails ▸ hall.details, fun h => ?_⟩
  refine ⟨hnested, ?_, hdetails.symm ▸ h, htaken, hlimits⟩
  rw [hstack]
  cases body.stack <;> rfl

/-- No other error of a service comes through: not those of kind `protocol` and `library`, not an
exception of a Python worker, whose type is sent in a map, and nothing from a JavaScript service,
which sends the stack as `undefined`. -/
theorem originPreserved_of_service (hfrom : fromPeer ≠ routerPeerId) (failure : ServiceFailure)
    (hreads : libs.Reads bodyBytes (.ofEntries (failure.entries undefinedExt)))
    (hnested : libs.nest (Value.ofEntries (failure.entries undefinedExt)) = true)
    (htaken : (Value.ofEntries (failure.entries undefinedExt)).everywhere
      (JavaScript.takenNode libs.unpackr) = true)
    (hlimits : (Value.ofEntries (failure.entries undefinedExt)).everywhere
      Python.unpackbNode = true) :
    OriginPreserved libs fromPeer bodyBytes ↔ failure.reported := by
  cases failure with
  | javaScript failure =>
    obtain ⟨code, message, hmap⟩ := isErrorMap_entries failure
    rw [originPreserved_of_peer hmap hreads hfrom]
    refine iff_of_false ?_ id
    rintro ⟨-, hall⟩
    have hstack : isTextOrNil undefinedExt = true := by
      cases failure <;> exact hall.stack
    cases hstack
  | rust failure =>
    refine (originPreserved_of_toMapping hfrom hreads hnested htaken hlimits).trans ?_
    cases failure <;> simp [ServiceFailure.reported, Rust.CallFailure.toErrorBody,
      Value.everywhere, Rust.plainNode]
  | go failure =>
    refine (originPreserved_of_toMapping hfrom hreads hnested htaken hlimits).trans ?_
    cases failure <;> simp [ServiceFailure.reported, Go.CallFailure.toErrorBody,
      Value.everywhere, Rust.plainNode]
  | php failure =>
    refine (originPreserved_of_toMapping hfrom hreads hnested htaken hlimits).trans ?_
    cases failure <;> simp [ServiceFailure.reported, Php.CallFailure.toErrorBody,
      Value.everywhere, Rust.plainNode]
  | python failure =>
    refine (originPreserved_of_toMapping hfrom hreads hnested htaken hlimits).trans ?_
    cases failure <;> simp [ServiceFailure.reported, Python.CallFailure.toErrorBody,
      Value.everywhere, Value.ofEntries, Rust.plainNode]

end Services

/-! ### Two documents -/

/-- A Python service that has no method `add`. -/
def functionNotFound : ErrorBody := (Python.CallFailure.functionNotFound "'add'").toErrorBody

/-- A JavaScript service that is asked for another namespace. -/
def invalidNamespace : List (String × Value) :=
  ServiceFailure.entries undefinedExt (.javaScript (.invalidNamespace "x"))

end Multifrost.Bindings
