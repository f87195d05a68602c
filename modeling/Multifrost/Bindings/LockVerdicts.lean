import Multifrost.Bindings.LockFile

/-!
# One verdict on a lock

The rules by which a lock file is evaluated are the same in all bindings, and so is the verdict on a
lock with a port of 16 bits and a finite expiry.  But the bindings do not hold their own locks to
that.  Go and PHP take whatever port they are given into the lock, for the probe of a port that is
none merely fails, and Rust, which reads the port into a `u16`, takes such a lock for an old one.
With a timeout that is not finite JavaScript writes null for the expiry, on which Python raises an
exception, and Python writes a word that only Python reads.
-/

namespace Multifrost.Bindings

open Json (Fields)
open Rust (Duration LockEvalResult LockFileData)

/-! ### The statement -/

/-- The holder of a lock: its binding, its process, and what it is given.  The ports of JavaScript and
Python are not held to what their websocket libraries take for one. -/
inductive Holder
  | rust (pid : Pid) (port : UInt16) (staleAfter : Duration) (now : ℚ)
  | javaScript (pid : Pid) (port : Option JavaScript.Number) (value : Option String)
      (createdMs nowMs : ℚ) (timeoutMs : JavaScript.Number)
  | python (pid : Pid) (port : Int) (created now : ℚ) (timeout : Double.Value)
  | go (pid : Pid) (port : Int64) (now : ℚ)
  | php (pid : Pid) (port : Int64) (now : ℚ)

/-- The lock file after some updates. -/
def Holder.fields (updates : List Update) : Holder → Fields
  | .rust pid port staleAfter now => Rust.lockFields pid port staleAfter now updates
  | .javaScript pid port value createdMs nowMs timeoutMs =>
    JavaScript.lockFields pid port value createdMs nowMs timeoutMs updates
  | .python pid port created now timeout => Python.lockFields pid port created now timeout updates
  | .go pid port now => Go.lockFields pid port now updates
  | .php pid port now => Php.lockFields pid port now updates

/-- A pid in a lock file, of a process that is alive. -/
def aliveField (platform : Nat → Bool) : Option Json → Bool
  | some (.int n) => decide (0 < n) && platform n.toNat
  | _ => false

/-- The six rules of `docs/spec.md`, in their order. -/
def specVerdict (fields : Fields) (now : ℚ) (platform : Nat → Bool) : LockEvalResult :=
  if !(Json.standardFields fields && isStr "v1" (fields.lookup "format")) then .reclaim
  else if ((fields.lookup "expires_at_unix").bind Json.number?).any (· < now) then .reclaim
  else if !aliveField platform (fields.lookup "pid") then .reclaim
  else if isStr "failed" (fields.lookup "status") then .reclaim
  else if aliveField platform (fields.lookup "router_pid") then .skipSpawn
  else .wait

/-- Every binding returns the verdict of the rules. -/
def VerdictsAgree (stringToNumber : String → JavaScript.Number) (stringLess : String → ℚ → Bool)
    (fields : Fields) (now : ℚ) (platform : Nat → Bool) : Prop :=
  let verdict := specVerdict fields now platform
  Rust.evaluateLock fields now platform = verdict ∧
  JavaScript.evaluateExistingLock stringToNumber (some (some (.obj fields))) now platform =
    some verdict ∧
  Python.evaluateExistingLock (some (some (.obj fields))) now platform = some verdict ∧
  Go.evaluateExistingLock fields now platform = verdict ∧
  Php.evaluateExistingLock stringLess fields now platform = verdict

/-- The holder is dead or has failed. -/
def GivenUp (fields : Fields) (platform : Nat → Bool) : Prop :=
  aliveField platform (fields.lookup "pid") = false ∨ isStr "failed" (fields.lookup "status") = true

/-- The port is an integer of 16 bits. -/
def TypedPort (fields : Fields) : Prop :=
  ∃ n : Int, fields.lookup "port" = some (.int n) ∧ 0 ≤ n ∧ n < 2 ^ 16

/-- The expiry is a number, and the port fits unless the lock is to be reclaimed anyway; or it is
one of Python's words, and Python reclaims the lock as the others do. -/
def Decided (fields : Fields) (now : ℚ) (platform : Nat → Bool) : Prop :=
  match fields.lookup "expires_at_unix" with
  | some (.infinity negative) => negative = true ∨ GivenUp fields platform
  | some .nan => GivenUp fields platform
  | some v => ∃ q, v.number? = some q ∧ (TypedPort fields ∨ q < now ∨ GivenUp fields platform)
  | none => False

/-! ### What a lock shows -/

/-- What the evaluators read of a lock. -/
structure View where
  pid : Pid
  routerPid : Option Pid
  port : Json
  createdAtUnix : Json
  expiresAtUnix : Json
  status : String
  language : String

def View.update (v : View) : Update → View
  | .routerPid pid => { v with routerPid := pid }
  | .ready => { v with status := "ready" }
  | .failed => { v with status := "failed" }

/-- A number, and hence standard. -/
def IsNumber (v : Json) : Prop := ∃ q, v.number? = some q

/-- The names of the fields. -/
def lockNames : List String :=
  ["format", "pid", "router_pid", "port", "created_at_unix", "expires_at_unix", "status", "language"]

/-- The fields of a lock file show a view, and there are no others. -/
structure Shows (fields : Fields) (v : View) : Prop where
  nodup : (fields.map Prod.fst).Nodup
  names : ∀ key ∈ fields.map Prod.fst, key ∈ lockNames
  format : fields.lookup "format" = some (.str "v1")
  pid : fields.lookup "pid" = some (.int v.pid.val)
  routerPid : fields.lookup "router_pid" = some (pidOrNull v.routerPid) ∨
    fields.lookup "router_pid" = none ∧ v.routerPid = none
  port : fields.lookup "port" = some v.port
  createdAtUnix : fields.lookup "created_at_unix" = some v.createdAtUnix
  expiresAtUnix : fields.lookup "expires_at_unix" = some v.expiresAtUnix
  status : fields.lookup "status" = some (.str v.status)
  language : fields.lookup "language" = some (.str v.language)
  standard : v.expiresAtUnix.standard = true → Json.standardFields fields = true

/-- What the bindings write has a port and a time of creation. -/
structure View.Valid (v : View) : Prop where
  port : IsNumber v.port
  createdAtUnix : IsNumber v.createdAtUnix
  expiresAtUnix : IsNumber v.expiresAtUnix ∨ v.expiresAtUnix = .null ∨ v.expiresAtUnix = .nan ∨
    ∃ negative, v.expiresAtUnix = .infinity negative

/-! ### The writers -/

section Writers

variable {fields : Fields} {v : View}

theorem IsNumber.standard {w : Json} (h : IsNumber w) : w.standard = true := by
  obtain ⟨q, hq⟩ := h
  cases w <;> first | rfl | cases hq

theorem isNumber_wholeOrFloat (q : ℚ) : IsNumber (wholeOrFloat q) := by
  unfold wholeOrFloat
  split_ifs
  · exact ⟨_, rfl⟩
  · exact ⟨_, rfl⟩

/-- The updates change the status and the pid of the router only. -/
theorem foldl_update (updates : List Update) (v : View) :
    (updates.foldl View.update v).port = v.port ∧
    (updates.foldl View.update v).createdAtUnix = v.createdAtUnix ∧
    (updates.foldl View.update v).expiresAtUnix = v.expiresAtUnix ∧
    (updates.foldl View.update v).language = v.language := by
  induction updates generalizing v with
  | nil => exact ⟨rfl, rfl, rfl, rfl⟩
  | cons update updates ih =>
    obtain ⟨hport, hcreated, hexpires, hlanguage⟩ := ih (v.update update)
    cases update <;> exact ⟨hport, hcreated, hexpires, hlanguage⟩

theorem View.Valid.foldl (h : v.Valid) (updates : List Update) :
    (updates.foldl View.update v).Valid := by
  obtain ⟨hport, hcreated, hexpires, -⟩ := foldl_update updates v
  constructor
  · rw [hport]
    exact h.port
  · rw [hcreated]
    exact h.createdAtUnix
  · rw [hexpires]
    exact h.expiresAtUnix

theorem standard_pidOrNull (pid : Option Pid) : (pidOrNull pid).standard = true := by
  cases pid <;> rfl

theorem Shows.update (h : Shows fields v) (update : Update) :
    Shows (Json.assign update.field.1 update.field.2 fields) (v.update update) := by
  have hfield : update.field.2.standard = true := by
    cases update with
    | routerPid pid => exact standard_pidOrNull pid
    | ready => rfl
    | failed => rfl
  have hname : update.field.1 ∈ lockNames := by
    cases update <;> simp [Update.field, lockNames]
  obtain ⟨hnodup, hkeys⟩ := Json.keys_assign update.field.1 update.field.2 h.nodup
  constructor
  case nodup => exact hnodup
  case names =>
    intro key hkey
    rcases hkeys key hkey with rfl | hkey
    · exact hname
    · exact h.names key hkey
  case standard =>
    intro hexpires
    refine Json.standardFields_assign hfield (h.standard ?_)
    cases update <;> exact hexpires
  case routerPid =>
    rw [Json.lookup_assign]
    cases update with
    | routerPid pid => exact Or.inl rfl
    | ready => exact h.routerPid
    | failed => exact h.routerPid
  case status =>
    rw [Json.lookup_assign]
    cases update with
    | routerPid pid => exact h.status
    | ready => rfl
    | failed => rfl
  all_goals rw [Json.lookup_assign]
  · cases update <;> exact h.format
  · cases update <;> exact h.pid
  · cases update <;> exact h.port
  · cases update <;> exact h.createdAtUnix
  · cases update <;> exact h.expiresAtUnix
  · cases update <;> exact h.language

theorem Shows.assignAll (h : Shows fields v) (updates : List Update) :
    Shows (assignAll fields updates) (updates.foldl View.update v) := by
  unfold Bindings.assignAll
  induction updates generalizing fields v with
  | nil => exact h
  | cons update updates ih => exact ih (h.update update)

theorem shows_newFields (pid : Pid) {port createdAtUnix : Json} (expiresAtUnix : Json)
    (language : String) (hport : IsNumber port) (hcreated : IsNumber createdAtUnix) :
    Shows (newFields pid port createdAtUnix expiresAtUnix language)
      ⟨pid, none, port, createdAtUnix, expiresAtUnix, "starting", language⟩ := by
  have hnodup : lockNames.Nodup := by decide
  refine ⟨hnodup, fun _ => id, rfl, rfl, Or.inl rfl, rfl, rfl, rfl, rfl, rfl, fun hexpires => ?_⟩
  have hexpires' : expiresAtUnix.standard = true := hexpires
  simp [newFields, Json.standardFields, Json.standard, hport.standard, hcreated.standard,
    hexpires']

/-- The record of Rust for a view. -/
def rustData (port : UInt16) (createdAtUnix expiresAtUnix : ℚ) (v : View) : LockFileData :=
  ⟨"v1", UInt32.ofNat v.pid.val, v.routerPid.map fun p => UInt32.ofNat p.val, port, createdAtUnix,
    expiresAtUnix, v.status, "rust"⟩

theorem toNat_ofNat_pid (pid : Pid) : (UInt32.ofNat pid.val).toNat = pid.val :=
  UInt32.toNat_ofNat_of_lt' (lt_trans pid.lt (by norm_num))

theorem rustData_foldl (port : UInt16) (createdAtUnix expiresAtUnix : ℚ) (updates : List Update)
    (v : View) :
    updates.foldl LockFileData.update (rustData port createdAtUnix expiresAtUnix v) =
      rustData port createdAtUnix expiresAtUnix (updates.foldl View.update v) := by
  refine List.foldl_hom (rustData port createdAtUnix expiresAtUnix) fun v update => ?_
  cases update <;> rfl

theorem shows_rustData (port : UInt16) (createdAtUnix expiresAtUnix : ℚ) {v : View}
    (hport : v.port = .int port.toNat) (hcreated : v.createdAtUnix = .float createdAtUnix)
    (hexpires : v.expiresAtUnix = .float expiresAtUnix) (hlanguage : v.language = "rust") :
    Shows (rustData port createdAtUnix expiresAtUnix v).toFields v := by
  obtain ⟨pid, routerPid, vport, vcreated, vexpires, status, language⟩ := v
  dsimp only at hport hcreated hexpires hlanguage
  subst hport hcreated hexpires hlanguage
  have hpid : ∀ p : Pid, some (Json.int (UInt32.ofNat p.val).toNat) = some (.int p.val) :=
    fun p => congrArg (fun n : Nat => some (Json.int n)) (toNat_ofNat_pid p)
  cases routerPid with
  | none =>
    have hnodup : (lockNames.erase "router_pid").Nodup := by decide
    have hnames : ∀ key ∈ lockNames.erase "router_pid", key ∈ lockNames :=
      fun _ => List.mem_of_mem_erase
    exact ⟨hnodup, hnames, rfl, hpid pid, Or.inr ⟨rfl, rfl⟩, rfl, rfl, rfl, rfl, rfl, fun _ => rfl⟩
  | some routerPid =>
    have hnodup : lockNames.Nodup := by decide
    exact ⟨hnodup, fun _ => id, rfl, hpid pid, Or.inl (hpid routerPid), rfl, rfl, rfl, rfl, rfl,
      fun _ => rfl⟩

/-- The record of Go for a view. -/
def goData (port : Int) (createdAtUnix expiresAtUnix : ℚ) (v : View) : Go.RouterLockData :=
  ⟨"v1", v.pid.val, v.routerPid.map fun p => (p.val : Int), port, createdAtUnix, expiresAtUnix,
    v.status, "go"⟩

theorem goData_foldl (port : Int) (createdAtUnix expiresAtUnix : ℚ) (updates : List Update)
    (v : View) :
    updates.foldl Go.RouterLockData.updateFields (goData port createdAtUnix expiresAtUnix v) =
      goData port createdAtUnix expiresAtUnix (updates.foldl View.update v) := by
  refine List.foldl_hom (goData port createdAtUnix expiresAtUnix) fun v update => ?_
  cases update <;> rfl

theorem shows_goData (port : Int) (createdAtUnix expiresAtUnix : ℚ) {v : View}
    (hport : v.port = .int port) (hcreated : v.createdAtUnix = wholeOrFloat createdAtUnix)
    (hexpires : v.expiresAtUnix = wholeOrFloat expiresAtUnix) (hlanguage : v.language = "go") :
    Shows (goData port createdAtUnix expiresAtUnix v).toFields v := by
  obtain ⟨pid, routerPid, vport, vcreated, vexpires, status, language⟩ := v
  dsimp only at hport hcreated hexpires hlanguage
  subst hport hcreated hexpires hlanguage
  have hstandard : ∀ w : Json, w.standard = true →
      Json.standardFields [("format", .str "v1"), ("pid", .int pid.val), ("router_pid", w),
        ("port", .int port), ("created_at_unix", wholeOrFloat createdAtUnix),
        ("expires_at_unix", wholeOrFloat expiresAtUnix), ("status", .str status),
        ("language", .str "go")] = true := by
    intro w hw
    simp [Json.standardFields, Json.standard, hw, (isNumber_wholeOrFloat _).standard]
  have hnodup : lockNames.Nodup := by decide
  cases routerPid with
  | none =>
    exact ⟨hnodup, fun _ => id, rfl, rfl, Or.inl rfl, rfl, rfl, rfl, rfl, rfl,
      fun _ => hstandard .null rfl⟩
  | some routerPid =>
    exact ⟨hnodup, fun _ => id, rfl, rfl, Or.inl rfl, rfl, rfl, rfl, rfl, rfl,
      fun _ => hstandard (.int routerPid.val) rfl⟩

/-- What a binding writes shows a valid view, in all its states. -/
theorem Holder.exists_view (holder : Holder) (updates : List Update) :
    ∃ v, Shows (holder.fields updates) v ∧ v.Valid := by
  cases holder with
  | rust pid port staleAfter now =>
    let v : View := ⟨pid, none, .int port.toNat, .float now, .float (now + staleAfter.asSecs),
      "starting", "rust"⟩
    have hv : v.Valid := ⟨⟨_, rfl⟩, ⟨_, rfl⟩, Or.inl ⟨_, rfl⟩⟩
    obtain ⟨hport, hcreated, hexpires, hlanguage⟩ := foldl_update updates v
    refine ⟨updates.foldl View.update v, ?_, hv.foldl updates⟩
    have hdata := rustData_foldl port now (now + staleAfter.asSecs) updates v
    have hshows := shows_rustData port now (now + staleAfter.asSecs) hport hcreated hexpires hlanguage
    rw [← hdata] at hshows
    exact hshows
  | javaScript pid port value createdMs nowMs timeoutMs =>
    have hport : IsNumber (JavaScript.stringify
      (.finite (JavaScript.resolveRouterPort port value))) := isNumber_wholeOrFloat _
    have hcreated : IsNumber (JavaScript.stringify (.finite (createdMs / 1000))) :=
      isNumber_wholeOrFloat _
    refine ⟨_, (shows_newFields pid _ "javascript" hport hcreated).assignAll updates,
      View.Valid.foldl ⟨hport, hcreated, ?_⟩ updates⟩
    cases timeoutMs with
    | nan => exact Or.inr (Or.inl rfl)
    | infinite negative => exact Or.inr (Or.inl rfl)
    | finite q => exact Or.inl (isNumber_wholeOrFloat _)
  | python pid port created now timeout =>
    refine ⟨_, (shows_newFields pid _ "python" ⟨_, rfl⟩ ⟨_, rfl⟩).assignAll updates,
      View.Valid.foldl ⟨⟨_, rfl⟩, ⟨_, rfl⟩, ?_⟩ updates⟩
    cases timeout with
    | nan => exact Or.inr (Or.inr (Or.inl rfl))
    | infinite negative => exact Or.inr (Or.inr (Or.inr ⟨negative, rfl⟩))
    | finite q => exact Or.inl ⟨_, rfl⟩
  | go pid port now =>
    let v : View := ⟨pid, none, .int port.toInt, wholeOrFloat now, wholeOrFloat (now + 10),
      "starting", "go"⟩
    have hv : v.Valid :=
      ⟨⟨_, rfl⟩, isNumber_wholeOrFloat now, Or.inl (isNumber_wholeOrFloat (now + 10))⟩
    obtain ⟨hport, hcreated, hexpires, hlanguage⟩ := foldl_update updates v
    refine ⟨updates.foldl View.update v, ?_, hv.foldl updates⟩
    have hdata := goData_foldl port.toInt now (now + 10) updates v
    have hshows := shows_goData port.toInt now (now + 10) hport hcreated hexpires hlanguage
    rw [← hdata] at hshows
    exact hshows
  | php pid port now =>
    refine ⟨_, (shows_newFields pid _ "php" ⟨_, rfl⟩ (isNumber_wholeOrFloat now)).assignAll updates,
      View.Valid.foldl ⟨⟨_, rfl⟩, isNumber_wholeOrFloat now,
        Or.inl (isNumber_wholeOrFloat (now + 10))⟩ updates⟩

end Writers

/-! ### The readers -/

/-- Rules 3 to 6, on a view. -/
def View.rules (v : View) (platform : Nat → Bool) : LockEvalResult :=
  if !platform v.pid.val then .reclaim
  else if v.status = "failed" then .reclaim
  else if v.routerPid.any fun pid => platform pid.val then .skipSpawn
  else .wait

section Readers

variable {fields : Fields} {v : View} {now : ℚ} {platform : Nat → Bool}

theorem aliveField_pid (platform : Nat → Bool) (pid : Pid) :
    aliveField platform (some (.int pid.val)) = platform pid.val := by
  simp [aliveField, pid.pos]

theorem Shows.isStr_format (h : Shows fields v) : isStr "v1" (fields.lookup "format") = true := by
  rw [h.format]
  rfl

/-- The pid of the router is missing, null or a pid. -/
theorem Shows.routerPid_elim (h : Shows fields v) {P : Option Json → Option Pid → Prop}
    (hmissing : P none none) (hnull : P (some .null) none)
    (hpid : ∀ pid : Pid, P (some (.int pid.val)) (some pid)) :
    P (fields.lookup "router_pid") v.routerPid := by
  rcases h.routerPid with hrouter | ⟨hrouter, hnone⟩
  · rw [hrouter]
    cases v.routerPid with
    | none => exact hnull
    | some pid => exact hpid pid
  · rw [hrouter, hnone]
    exact hmissing

theorem Shows.aliveField_pid (h : Shows fields v) :
    aliveField platform (fields.lookup "pid") = platform v.pid.val := by
  rw [h.pid, Bindings.aliveField_pid]

theorem Shows.aliveField_routerPid (h : Shows fields v) :
    aliveField platform (fields.lookup "router_pid") =
      v.routerPid.any fun pid => platform pid.val := by
  refine h.routerPid_elim (P := fun field routerPid => aliveField platform field =
    routerPid.any fun pid => platform pid.val) rfl rfl ?_
  intro pid
  exact Bindings.aliveField_pid platform pid

theorem Shows.isStr_status (h : Shows fields v) (s : String) :
    isStr s (fields.lookup "status") = decide (v.status = s) := by
  rw [h.status]
  exact Bool.beq_eq_decide_eq v.status s

theorem Shows.givenUp_iff (h : Shows fields v) :
    GivenUp fields platform ↔ v.rules platform = .reclaim := by
  unfold GivenUp View.rules
  rw [h.aliveField_pid, h.isStr_status]
  -- past rules 3 and 4 the verdict is not to reclaim
  cases platform v.pid.val <;> by_cases hfailed : v.status = "failed" <;> simp [hfailed]
  split_ifs <;> simp

theorem Shows.specVerdict_eq (h : Shows fields v) (hstandard : v.expiresAtUnix.standard = true) :
    specVerdict fields now platform =
      if v.expiresAtUnix.number?.any (· < now) then .reclaim else v.rules platform := by
  unfold specVerdict View.rules
  rw [h.standard hstandard, h.isStr_format, h.expiresAtUnix, h.aliveField_pid, h.isStr_status,
    h.aliveField_routerPid]
  simp

/-- A text with a word in it is for Python only. -/
theorem Shows.not_standard (h : Shows fields v) (hstandard : v.expiresAtUnix.standard = false) :
    Json.standardFields fields = false := by
  rw [Bool.eq_false_iff]
  intro hfields
  rw [Json.standard_of_lookup hfields h.expiresAtUnix] at hstandard
  cases hstandard

/-! #### Rust -/

theorem u32_pid (pid : Pid) : Rust.u32 (.int pid.val) = some pid.val := by
  have hlt : (pid.val : ℤ) < (2 ^ 32 : ℕ) := by exact_mod_cast lt_trans pid.lt (by norm_num)
  simp only [Rust.u32, Rust.unsigned, Int.toNat_natCast]
  exact if_pos ⟨Int.natCast_nonneg _, hlt⟩

theorem Shows.optionU32_eq (h : Shows fields v) :
    Rust.optionU32 (fields.lookup "router_pid") =
      some (v.routerPid.map fun pid => UInt32.ofNat pid.val) := by
  refine h.routerPid_elim (P := fun field routerPid => Rust.optionU32 field =
    some (routerPid.map fun pid => UInt32.ofNat pid.val)) rfl rfl ?_
  intro pid
  simp [Rust.optionU32, u32_pid]

theorem isProcessAlive_pid (pid : Pid) :
    Rust.isProcessAlive (fun p => platform p.toNat) (UInt32.ofNat pid.val) = platform pid.val := by
  have hne : UInt32.ofNat pid.val ≠ 0 := by
    intro hzero
    have hval := congrArg UInt32.toNat hzero
    rw [toNat_ofNat_pid] at hval
    exact pid.pos.ne' hval
  unfold Rust.isProcessAlive
  rw [if_neg hne]
  exact congrArg platform (toNat_ofNat_pid pid)

/-- The rules of Rust on a record. -/
theorem evaluateExistingLock_rules (v : View) (port : UInt16) (createdAtUnix expiresAtUnix : ℚ)
    (language : String) :
    Rust.evaluateExistingLock (some (some ⟨"v1", UInt32.ofNat v.pid.val,
      v.routerPid.map fun pid => UInt32.ofNat pid.val, port, createdAtUnix, expiresAtUnix, v.status,
      language⟩)) now (fun pid => platform pid.toNat) =
      if expiresAtUnix < now then .reclaim else v.rules platform := by
  have hrouter : (v.routerPid.map fun pid => UInt32.ofNat pid.val).any
      (Rust.isProcessAlive fun p => platform p.toNat) =
        v.routerPid.any fun pid => platform pid.val := by
    cases v.routerPid with
    | none => rfl
    | some pid => exact isProcessAlive_pid pid
  simp only [Rust.evaluateExistingLock, View.rules, isProcessAlive_pid, hrouter]
  rfl

theorem u16_iff {w : Json} :
    (∃ n, Rust.u16 w = some n) ↔ ∃ n : Int, w = .int n ∧ 0 ≤ n ∧ n < 2 ^ 16 := by
  constructor
  · rintro ⟨n, hn⟩
    cases w with
    | int k =>
      simp only [Rust.u16, Rust.unsigned] at hn
      split_ifs at hn with hk
      exact ⟨k, rfl, hk.1, hk.2⟩
    | _ => cases hn
  · rintro ⟨n, rfl, hn⟩
    exact ⟨n.toNat, if_pos hn⟩

theorem Shows.typedPort_iff (h : Shows fields v) :
    TypedPort fields ↔ ∃ n, Rust.u16 v.port = some n := by
  rw [u16_iff]
  unfold TypedPort
  rw [h.port]
  simp only [Option.some.injEq]

theorem Shows.lockFileData_eq (h : Shows fields v) {port : Nat} {created expires : ℚ}
    (hport : Rust.u16 v.port = some port) (hcreated : v.createdAtUnix.number? = some created)
    (hexpires : v.expiresAtUnix.number? = some expires) :
    Rust.lockFileData fields = some ⟨"v1", UInt32.ofNat v.pid.val,
      v.routerPid.map fun pid => UInt32.ofNat pid.val, UInt16.ofNat port, created, expires, v.status,
      v.language⟩ := by
  have hstandard := h.standard (IsNumber.standard ⟨expires, hexpires⟩)
  have hformat : (fields.lookup "format").bind Rust.text = some "v1" := by rw [h.format]; rfl
  have hpid : (fields.lookup "pid").bind Rust.u32 = some v.pid.val := by
    rw [h.pid, Option.bind_some, u32_pid]
  have hport' : (fields.lookup "port").bind Rust.u16 = some port := by
    rw [h.port, Option.bind_some, hport]
  have hcreated' : (fields.lookup "created_at_unix").bind Json.number? = some created := by
    rw [h.createdAtUnix, Option.bind_some, hcreated]
  have hexpires' : (fields.lookup "expires_at_unix").bind Json.number? = some expires := by
    rw [h.expiresAtUnix, Option.bind_some, hexpires]
  have hstatus : (fields.lookup "status").bind Rust.text = some v.status := by rw [h.status]; rfl
  have hlanguage : Rust.textOrDefault (fields.lookup "language") = some v.language := by
    rw [h.language]
    rfl
  unfold Rust.lockFileData
  rw [if_pos hstandard, hformat, hpid, h.optionU32_eq, hport', hcreated', hexpires', hstatus,
    hlanguage]
  rfl

theorem Shows.lockFileData_eq_none (h : Shows fields v) (hport : Rust.u16 v.port = none) :
    Rust.lockFileData fields = none := by
  unfold Rust.lockFileData
  rw [h.port, Option.bind_some, hport]
  simp

/-- Rust applies the rules to a lock with a port it can read, and takes any other for an old
one. -/
theorem Shows.rust_eq (h : Shows fields v) (hv : v.Valid) {q : ℚ}
    (hq : v.expiresAtUnix.number? = some q) (hport : TypedPort fields) :
    Rust.evaluateLock fields now platform =
      if q < now then .reclaim else v.rules platform := by
  obtain ⟨created, hcreated⟩ := hv.createdAtUnix
  obtain ⟨port, hport⟩ := h.typedPort_iff.mp hport
  rw [Rust.evaluateLock, h.lockFileData_eq hport hcreated hq, evaluateExistingLock_rules]

theorem Shows.rust_eq_reclaim (h : Shows fields v) (hport : ¬ TypedPort fields) :
    Rust.evaluateLock fields now platform = .reclaim := by
  have hnone : Rust.u16 v.port = none := by
    by_contra hsome
    exact hport (h.typedPort_iff.mpr (Option.ne_none_iff_exists'.mp hsome))
  rw [Rust.evaluateLock, h.lockFileData_eq_none hnone]
  rfl

/-! #### Go -/

/-- Names that differ do so in any case. -/
theorem foldName_inj : ∀ name ∈ lockNames, ∀ name' ∈ lockNames,
    Go.foldName name = Go.foldName name' → name = name' := by
  decide +kernel

/-- A field is read from one value at most, the one that is stored under its name. -/
theorem Shows.valuesOf_eq (h : Shows fields v) {name : String} (hname : name ∈ lockNames) :
    Go.valuesOf name fields = (fields.lookup name).toList := by
  have hnodup := h.nodup
  have hnames := h.names
  clear h
  induction fields with
  | nil => rfl
  | cons field fields ih =>
    obtain ⟨key, value⟩ := field
    obtain ⟨hnotMem, hnodup⟩ := List.nodup_cons.mp hnodup
    obtain ⟨hkey, hnames⟩ := List.forall_mem_cons.mp hnames
    have ih := ih hnodup hnames
    unfold Go.valuesOf at ih ⊢
    rw [List.filter_cons, Entries.lookup_cons]
    by_cases heq : name = key
    · subst heq
      rw [if_pos (decide_eq_true rfl), if_pos rfl, List.map_cons, ih,
        Entries.lookup_eq_none hnotMem]
      rfl
    · have hfold : ¬ Go.foldName key = Go.foldName name :=
        fun hfold => heq (foldName_inj key hkey name hname hfold).symm
      rw [if_neg (by simp [hfold]), if_neg heq, ih]

/-- The field that the record has for a value that is not null. -/
theorem Shows.unmarshalField_eq (h : Shows fields v) {α : Type} {zero : α} {read : Json → Option α}
    {name : String} (hname : name ∈ lockNames) {value : Json} (hvalue : fields.lookup name = some value)
    (hne : value ≠ .null) : Go.unmarshalField zero read (Go.valuesOf name fields) = read value := by
  rw [h.valuesOf_eq hname, hvalue]
  cases value with
  | null => exact absurd rfl hne
  | _ => exact bind_pure _

theorem ne_null_of_isNumber {w : Json} (h : IsNumber w) : w ≠ .null := by
  rintro rfl
  obtain ⟨q, hq⟩ := h
  cases hq

theorem goInt_pid (pid : Pid) : Go.int (.int pid.val) = some (pid.val : Int) := by
  have hlt := pid.lt
  simp only [Go.int]
  rw [if_pos]
  omega

theorem unmarshalPointer_int {α : Type} (read : Json → Option α) (n : Int) :
    Go.unmarshalPointer read [.int n] = (read (.int n)).map some :=
  bind_pure _

theorem Shows.unmarshalPointer_routerPid (h : Shows fields v) :
    Go.unmarshalPointer Go.int (Go.valuesOf "router_pid" fields) =
      some (v.routerPid.map fun pid => (pid.val : Int)) := by
  rw [h.valuesOf_eq (by decide)]
  refine h.routerPid_elim (P := fun field routerPid => Go.unmarshalPointer Go.int field.toList =
    some (routerPid.map fun pid => (pid.val : Int))) rfl rfl ?_
  intro pid
  rw [Option.toList_some, unmarshalPointer_int, goInt_pid]
  rfl

theorem goAlive_pid (pid : Pid) : Go.isProcessAlive platform pid.val = platform pid.val := by
  have hpos := pid.pos
  unfold Go.isProcessAlive
  rw [if_neg (by omega), Int.toNat_natCast]

/-- Go applies the rules to a lock with a port that is an `int`, and takes any other for an old
one. -/
theorem Shows.go_eq (h : Shows fields v) (hv : v.Valid) {q : ℚ}
    (hq : v.expiresAtUnix.number? = some q) {port : Int} (hport : Go.int v.port = some port) :
    Go.evaluateExistingLock fields now platform =
      if q < now then .reclaim else v.rules platform := by
  obtain ⟨created, hcreated⟩ := hv.createdAtUnix
  have hstandard := h.standard (IsNumber.standard ⟨q, hq⟩)
  have hformat : Go.unmarshalField "" Rust.text (Go.valuesOf "format" fields) = some "v1" :=
    h.unmarshalField_eq (by decide) h.format (by simp)
  have hpid : Go.unmarshalField 0 Go.int (Go.valuesOf "pid" fields) = some (v.pid.val : Int) :=
    (h.unmarshalField_eq (by decide) h.pid (by simp)).trans (goInt_pid v.pid)
  have hport' : Go.unmarshalField 0 Go.int (Go.valuesOf "port" fields) = some port :=
    (h.unmarshalField_eq (by decide) h.port (ne_null_of_isNumber hv.port)).trans hport
  have hcreated' : Go.unmarshalField 0 Json.number? (Go.valuesOf "created_at_unix" fields) =
      some created :=
    (h.unmarshalField_eq (by decide) h.createdAtUnix (ne_null_of_isNumber ⟨_, hcreated⟩)).trans hcreated
  have hexpires : Go.unmarshalField 0 Json.number? (Go.valuesOf "expires_at_unix" fields) = some q :=
    (h.unmarshalField_eq (by decide) h.expiresAtUnix (ne_null_of_isNumber ⟨_, hq⟩)).trans hq
  have hstatus : Go.unmarshalField "" Rust.text (Go.valuesOf "status" fields) = some v.status :=
    h.unmarshalField_eq (by decide) h.status (by simp)
  have hlanguage : Go.unmarshalField "" Rust.text (Go.valuesOf "language" fields) = some v.language :=
    h.unmarshalField_eq (by decide) h.language (by simp)
  have hdata : Go.unmarshal fields = some ⟨"v1", v.pid.val,
      v.routerPid.map fun pid => (pid.val : Int), port, created, q, v.status, v.language⟩ := by
    unfold Go.unmarshal
    rw [if_pos hstandard, hformat, hpid, h.unmarshalPointer_routerPid, hport', hcreated', hexpires, hstatus,
      hlanguage]
    rfl
  have hrouter : (v.routerPid.map fun pid => (pid.val : Int)).any (Go.isProcessAlive platform) =
      v.routerPid.any fun pid => platform pid.val := by
    cases v.routerPid with
    | none => rfl
    | some pid => exact goAlive_pid pid
  unfold Go.evaluateExistingLock
  rw [hdata]
  simp only [View.rules, goAlive_pid, hrouter]
  rfl

theorem Shows.go_eq_reclaim (h : Shows fields v) (hv : v.Valid) (hport : Go.int v.port = none) :
    Go.evaluateExistingLock fields now platform = .reclaim := by
  have hport' : Go.unmarshalField 0 Go.int (Go.valuesOf "port" fields) = none :=
    (h.unmarshalField_eq (by decide) h.port (ne_null_of_isNumber hv.port)).trans hport
  have hdata : Go.unmarshal fields = none := by
    unfold Go.unmarshal
    rw [hport']
    simp
  unfold Go.evaluateExistingLock
  rw [hdata]

/-! #### JavaScript -/

theorem fieldNumber_of_isNumber (stringToNumber : String → JavaScript.Number) {w : Json} {q : ℚ}
    (h : w.number? = some q) :
    JavaScript.fieldNumber stringToNumber (some w) = some (.finite q) := by
  cases w with
  | int n =>
    cases h
    simp [JavaScript.fieldNumber, JavaScript.toNumber]
  | float x =>
    cases h
    simp [JavaScript.fieldNumber, JavaScript.toNumber]
  | _ => cases h

theorem javaScriptAlive_pid (pid : Pid) :
    JavaScript.isProcessAlive platform (.finite (pid.val : ℤ)) = platform pid.val := by
  have hpos : ¬ ((pid.val : ℤ) : ℚ) ≤ 0 := by
    have := pid.pos
    exact_mod_cast not_le.mpr (by exact_mod_cast this)
  have hlt : ((pid.val : ℤ) : ℚ) < 2 ^ 31 := by exact_mod_cast pid.lt
  simp only [JavaScript.isProcessAlive]
  rw [if_neg hpos]
  simp only [hlt, Rat.den_intCast, Rat.num_intCast, Int.toNat_natCast, true_and, Bool.decide_eq_true]

theorem Shows.javaScript_routerPid (h : Shows fields v)
    (stringToNumber : String → JavaScript.Number) :
    JavaScript.evaluateRouterPid stringToNumber platform (fields.lookup "router_pid") =
      some (if v.routerPid.any fun pid => platform pid.val then .skipSpawn else .wait) := by
  refine h.routerPid_elim (P := fun field routerPid =>
    JavaScript.evaluateRouterPid stringToNumber platform field =
      some (if routerPid.any fun pid => platform pid.val then .skipSpawn else .wait)) rfl rfl ?_
  intro pid
  simp only [JavaScript.evaluateRouterPid, JavaScript.toNumber, Option.bind_eq_bind,
    Option.bind_some, javaScriptAlive_pid]
  exact (apply_ite some _ _ _).symm

/-- JavaScript on a lock with an expiry that converts to a number. -/
theorem Shows.javaScript_eq (h : Shows fields v) (stringToNumber : String → JavaScript.Number)
    {q : ℚ} (hq : v.expiresAtUnix.number? = some q) :
    JavaScript.evaluateExistingLock stringToNumber (some (some (.obj fields))) now platform =
      some (if q < now then .reclaim else v.rules platform) := by
  have hstandard : (Json.obj fields).standard = true := h.standard (IsNumber.standard ⟨q, hq⟩)
  have hexpires : JavaScript.fieldNumber stringToNumber (fields.lookup "expires_at_unix") =
      some (.finite q) := by
    rw [h.expiresAtUnix]
    exact fieldNumber_of_isNumber stringToNumber hq
  have hpid : JavaScript.fieldNumber stringToNumber (fields.lookup "pid") =
      some (.finite (v.pid.val : ℤ)) := by
    rw [h.pid]
    exact fieldNumber_of_isNumber stringToNumber rfl
  simp only [JavaScript.evaluateExistingLock, JavaScript.evaluateObject, hstandard, h.isStr_format,
    hexpires, hpid, h.javaScript_routerPid, h.isStr_status, View.rules, JavaScript.lessThan,
    Option.bind_eq_bind, Option.bind_some, javaScriptAlive_pid]
  by_cases hnow : q < now <;> cases platform v.pid.val <;> by_cases hfailed : v.status = "failed" <;>
    simp [hnow, hfailed]

/-! #### Python -/

theorem pythonAlive_pid (pid : Pid) :
    Python.isProcessAlive platform (.int pid.val) = some (platform pid.val) := by
  have hpos := pid.pos
  have hlt := pid.lt
  simp only [Python.isProcessAlive, Int.toNat_natCast]
  rw [if_neg (by omega), if_pos (by omega)]

theorem Shows.python_routerPid (h : Shows fields v) :
    Python.evaluateRouterPid platform (fields.lookup "router_pid") =
      some (if v.routerPid.any fun pid => platform pid.val then .skipSpawn else .wait) := by
  refine h.routerPid_elim (P := fun field routerPid => Python.evaluateRouterPid platform field =
    some (if routerPid.any fun pid => platform pid.val then .skipSpawn else .wait)) rfl rfl ?_
  intro pid
  simp only [Python.evaluateRouterPid, pythonAlive_pid, Option.bind_eq_bind, Option.bind_some]
  exact (apply_ite some _ _ _).symm

/-- Python on a lock, by the comparison of its expiry with the clock. -/
theorem Shows.python_eq (h : Shows fields v) :
    Python.evaluateExistingLock (some (some (.obj fields))) now platform =
      (Python.lessThan v.expiresAtUnix now).map fun expired =>
        if expired then .reclaim else v.rules platform := by
  simp only [Python.evaluateExistingLock, Python.evaluateObject, h.isStr_format, h.expiresAtUnix,
    h.pid, Option.getD_some, pythonAlive_pid, h.python_routerPid, h.isStr_status, View.rules,
    Option.bind_eq_bind, Option.bind_some]
  cases Python.lessThan v.expiresAtUnix now with
  | none => rfl
  | some expired =>
    cases expired <;> cases platform v.pid.val <;> by_cases hfailed : v.status = "failed" <;>
      simp [hfailed]

/-! #### PHP -/

theorem isInt_pid (pid : Pid) : Php.isInt (some (.int pid.val)) = some (pid.val : Int) := by
  have hlt := pid.lt
  simp only [Php.isInt]
  rw [if_pos]
  omega

theorem phpAlive_pid (pid : Pid) : Php.isProcessAlive platform pid.val = platform pid.val := by
  have hpos := pid.pos
  unfold Php.isProcessAlive
  rw [if_neg (by omega), Int.toNat_natCast]

theorem Shows.php_routerPid (h : Shows fields v) :
    Php.evaluateRouterPid platform (fields.lookup "router_pid") =
      if v.routerPid.any fun pid => platform pid.val then .skipSpawn else .wait := by
  refine h.routerPid_elim (P := fun field routerPid => Php.evaluateRouterPid platform field =
    if routerPid.any fun pid => platform pid.val then .skipSpawn else .wait) rfl rfl ?_
  intro pid
  have hpos : (0 : ℤ) < pid.val := by exact_mod_cast pid.pos
  rw [Php.evaluateRouterPid, isInt_pid]
  simp only [phpAlive_pid, hpos, true_and, Option.any_some]

theorem Shows.php_eq (h : Shows fields v) (stringLess : String → ℚ → Bool) {q : ℚ}
    (hq : v.expiresAtUnix.number? = some q) :
    Php.evaluateExistingLock stringLess fields now platform =
      if q < now then .reclaim else v.rules platform := by
  have hstandard := h.standard (IsNumber.standard ⟨q, hq⟩)
  have hless : Php.lessThan stringLess v.expiresAtUnix now = decide (q < now) := by
    cases hw : v.expiresAtUnix <;> rw [hw] at hq <;> cases hq <;> rfl
  simp only [Php.evaluateExistingLock, hstandard, h.isStr_format, h.expiresAtUnix,
    Option.any_some, hless, h.pid, isInt_pid, phpAlive_pid, h.isStr_status, h.php_routerPid, View.rules]
  by_cases hnow : q < now <;> cases platform v.pid.val <;> by_cases hfailed : v.status = "failed" <;>
    simp [hnow, hfailed]

/-! ### Agreement -/

variable (stringToNumber : String → JavaScript.Number) (stringLess : String → ℚ → Bool)

theorem goInt_of_typedPort (h : Shows fields v) (hport : TypedPort fields) :
    ∃ port, Go.int v.port = some port := by
  obtain ⟨n, hn, hlow, hhigh⟩ := hport
  have hint : v.port = .int n := Option.some.inj (h.port.symm.trans hn)
  refine ⟨n, ?_⟩
  rw [hint]
  simp only [Go.int]
  rw [if_pos]
  omega

/-- A lock whose expiry is a number. -/
theorem Shows.verdictsAgree_iff_of_number (h : Shows fields v) (hv : v.Valid) {q : ℚ}
    (hq : v.expiresAtUnix.number? = some q) :
    VerdictsAgree stringToNumber stringLess fields now platform ↔
      TypedPort fields ∨ q < now ∨ GivenUp fields platform := by
  have hspec : specVerdict fields now platform =
      if q < now then .reclaim else v.rules platform := by
    rw [h.specVerdict_eq (IsNumber.standard ⟨q, hq⟩), hq]
    simp
  have hpython : Python.evaluateExistingLock (some (some (.obj fields))) now platform =
      some (if q < now then .reclaim else v.rules platform) := by
    rw [h.python_eq]
    cases hw : v.expiresAtUnix <;> rw [hw] at hq <;> cases hq <;>
      simp [Python.lessThan]
  -- Go fails only on ports beyond 64 bits, and then it reclaims
  have hgo : (TypedPort fields ∨ (if q < now then .reclaim else v.rules platform) =
      LockEvalResult.reclaim) → Go.evaluateExistingLock fields now platform =
        if q < now then .reclaim else v.rules platform := by
    intro hport
    cases hint : Go.int v.port with
    | some port => exact h.go_eq hv hq hint
    | none =>
      rcases hport with hport | hreclaim
      · obtain ⟨port, hsome⟩ := goInt_of_typedPort h hport
        rw [hint] at hsome
        cases hsome
      · rw [h.go_eq_reclaim hv hint, hreclaim]
  have hreclaim : (if q < now then .reclaim else v.rules platform) = LockEvalResult.reclaim ↔
      q < now ∨ GivenUp fields platform := by
    rw [h.givenUp_iff]
    by_cases hnow : q < now <;> simp [hnow]
  simp only [VerdictsAgree, hspec, hpython, h.javaScript_eq stringToNumber hq,
    h.php_eq stringLess hq, true_and, and_true]
  rw [← hreclaim]
  -- Rust decides: without a typed port it reclaims
  by_cases hport : TypedPort fields
  · exact iff_of_true ⟨h.rust_eq hv hq hport, hgo (Or.inl hport)⟩ (Or.inl hport)
  · rw [h.rust_eq_reclaim hport, or_iff_right hport]
    exact ⟨fun hagree => hagree.1.symm, fun heq => ⟨heq.symm, hgo (Or.inr heq)⟩⟩

/-- A lock with a word for its expiry is no JSON but for Python. -/
theorem Shows.verdictsAgree_iff_of_word (h : Shows fields v)
    (hstandard : v.expiresAtUnix.standard = false) :
    VerdictsAgree stringToNumber stringLess fields now platform ↔
      Python.evaluateExistingLock (some (some (.obj fields))) now platform = some .reclaim := by
  have hfields := h.not_standard hstandard
  have hobj : (Json.obj fields).standard = false := hfields
  simp [VerdictsAgree, specVerdict, Rust.evaluateLock, Rust.lockFileData, Rust.evaluateExistingLock,
    JavaScript.evaluateExistingLock, Go.evaluateExistingLock, Go.unmarshal,
    Php.evaluateExistingLock, hfields, hobj]

/-- Python cannot compare null with the clock. -/
theorem Shows.not_verdictsAgree (h : Shows fields v) (hnull : v.expiresAtUnix = .null) :
    ¬ VerdictsAgree stringToNumber stringLess fields now platform := by
  rintro ⟨-, -, hpython, -⟩
  rw [h.python_eq, hnull] at hpython
  cases hpython

end Readers

/-- **When the bindings agree on a lock**, for every lock that one of them writes. -/
theorem verdictsAgree_iff (holder : Holder) (updates : List Update) (now : ℚ)
    (platform : Nat → Bool) (stringToNumber : String → JavaScript.Number)
    (stringLess : String → ℚ → Bool) :
    VerdictsAgree stringToNumber stringLess (holder.fields updates) now platform ↔
      Decided (holder.fields updates) now platform := by
  obtain ⟨v, h, hv⟩ := holder.exists_view updates
  unfold Decided
  rw [h.expiresAtUnix]
  rcases hv.expiresAtUnix with ⟨q, hq⟩ | hnull | hnan | ⟨negative, hinfinity⟩
  -- a number, the null of JavaScript, and the two words of Python
  · rw [h.verdictsAgree_iff_of_number stringToNumber stringLess hv hq]
    cases hw : v.expiresAtUnix <;> rw [hw] at hq <;> cases hq <;> simp [Json.number?]
  · rw [hnull]
    refine iff_of_false (h.not_verdictsAgree stringToNumber stringLess hnull) ?_
    rintro ⟨q, hq, -⟩
    cases hq
  · rw [h.verdictsAgree_iff_of_word stringToNumber stringLess (by rw [hnan]; rfl), h.python_eq, hnan,
      h.givenUp_iff]
    simp [Python.lessThan]
  · rw [h.verdictsAgree_iff_of_word stringToNumber stringLess (by rw [hinfinity]; rfl), h.python_eq,
      hinfinity, h.givenUp_iff]
    cases negative <;> simp [Python.lessThan]

/-- Rust takes the lock that Go holds for the port 70000 for an old one. -/
theorem not_verdictsAgree_of_port : ¬ ∀ holder updates now platform stringToNumber stringLess,
    VerdictsAgree stringToNumber stringLess (Holder.fields updates holder) now platform := by
  intro h
  have hrust := (h (.go ⟨1, by norm_num, by norm_num⟩ 70000 0) [] 0 (fun _ => true) (fun _ => .nan)
    (fun _ _ => false)).1
  revert hrust
  decide +kernel

end Multifrost.Bindings
