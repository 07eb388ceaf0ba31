import SnortOptimizer.Text.Basic
import SnortOptimizer.Time.Layout
import Mathlib.Data.Finset.Card

/-!
# Flows and the alerts raised in them (`analyser/sql/flow_*.go`)

The analyser judges a rule set by flows: labelled records of who talked to whom from when to when.
An alert belongs to the flow with its addresses, ports and protocol, in either direction, whose
time span contains the alert; among several, to the one that started last before it.

The flows are indexed by a text key made of the tuple. A `FlowSet` carries the proof that its index
only points at flows it has.
-/

namespace SnortOptimizer.Analyser

open Text Time

/-- What the Go runtime supplies and no source file decides: `unicode.ToUpper` and `time.Local`. -/
structure Runtime where
  upper : Char → Char
  local_ : Location

structure FlowRecord where
  id : String
  srcIP : String
  srcPort : Int
  dstIP : String
  dstPort : Int
  protocol : String
  start : Int                      -- nanoseconds since 1970
  duration : Int                   -- nanoseconds
  label : String
  isBenign : Bool
  isMalicious : Bool
  deriving DecidableEq, Repr

structure FlowSet where
  flows : List FlowRecord
  index : String → List Nat
  year : Int
  index_lt : ∀ key, ∀ i ∈ index key, i < flows.length

structure AlertForEval where
  id : Int
  timestamp : String
  proto : String
  srcAP : String
  dstAP : String
  gid : Int
  sid : Int
  rev : Int
  deriving DecidableEq, Repr

def tupleKey (rt : Runtime) (srcIP : String) (srcPort : Int) (dstIP : String) (dstPort : Int)
    (proto : String) : String :=
  srcIP ++ "|" ++ toString srcPort ++ "|" ++ dstIP ++ "|" ++ toString dstPort ++ "|"
    ++ mapUpper rt.upper proto

def normalizeProtocol (rt : Runtime) (raw : String) : String :=
  let raw := mapUpper rt.upper (trimSpace raw)
  if raw = "6" then "TCP"
  else if raw = "17" then "UDP"
  else if raw = "1" then "ICMP"
  else raw

/-- Host and port of an address; brackets around an IPv6 host are taken off. -/
def parseAddrPort (raw : String) : Option (String × Int) :=
  match splitLast ':' (trimSpace raw).toList with
  | none => none
  | some (host, port) =>
      if host = [] ∨ port = [] then none
      else (atoi port).map fun n => (String.ofList (trim ['[', ']'] host), n)

/-- `15:04:05`, which most of the layouts end with. -/
def clock : List Chunk :=
  [.literal ' ', .hour, .literal ':', .zeroMinute, .literal ':', .zeroSecond]

/-- The six layouts of `parseAlertTime`. -/
def alertLayouts : List (List Chunk) :=
  let slashes (m d : Chunk) : List Chunk := [.longYear, .literal '/', m, .literal '/', d]
  let dashes : List Chunk := [.longYear, .literal '-', .zeroMonth, .literal '-', .zeroDay]
  [ slashes .zeroMonth .zeroDay ++ clock ++ [Chunk.fracSecond9],
    slashes .zeroMonth .zeroDay ++ clock,
    slashes .numMonth .day ++ clock ++ [Chunk.fracSecond9],
    slashes .numMonth .day ++ clock,
    dashes ++ clock ++ [Chunk.fracSecond9],
    dashes ++ clock ]

/-- Snort's time stamps have no year; the year of the flows is put in front of them. -/
def parseAlertTime (rt : Runtime) (raw : String) (year : Int) : Option Int :=
  let raw := trimSpace raw
  let withYear :=
    if 0 < year then
      [toString year ++ "/" ++ String.ofList (replaceFirst '-' ' ' raw.toList),
        toString year ++ "/" ++ raw]
    else []
  (raw :: withYear).findSome? fun candidate => parseFirst alertLayouts candidate rt.local_

def absDuration (value : Int) : Int := if value < 0 then -value else value

/-- One candidate of the search in `matchAlertToFlow`: the best flow so far with its distance. -/
def nearer (fs : FlowSet) (ts : Int) (best : Option (Nat × Int)) (idx : Nat) :
    Option (Nat × Int) :=
  match fs.flows[idx]? with
  | none => best                   -- the index never points there
  | some flow =>
      if ts < flow.start ∨ flow.start + flow.duration < ts then best
      else
        let distance := absDuration (ts - flow.start)
        match best with
        | none => some (idx, distance)
        | some (b, bestDistance) =>
            if distance < bestDistance then some (idx, distance) else some (b, bestDistance)

def matchAlertToFlow (rt : Runtime) (fs : FlowSet) (alert : AlertForEval) : Option Nat := do
  let (srcIP, srcPort) ← parseAddrPort alert.srcAP
  let (dstIP, dstPort) ← parseAddrPort alert.dstAP
  let ts ← parseAlertTime rt alert.timestamp fs.year
  let key := tupleKey rt srcIP srcPort dstIP dstPort (normalizeProtocol rt alert.proto)
  let (best, _) ← (fs.index key).foldl (nearer fs ts) none
  return best

def alertUnmatchedKey (alert : AlertForEval) : String :=
  toString alert.gid ++ ":" ++ toString alert.sid ++ ":" ++ toString alert.rev ++ "|" ++ alert.srcAP
    ++ "|" ++ alert.dstAP ++ "|" ++ alert.timestamp

structure MatchedAlert where
  alert : AlertForEval
  flow : Nat
  deriving DecidableEq, Repr

/-- The matched alerts with their flows, and the keys of those that match none. -/
def matchAlert (rt : Runtime) (fs : FlowSet) (acc : List MatchedAlert × Finset String)
    (alert : AlertForEval) : List MatchedAlert × Finset String :=
  match matchAlertToFlow rt fs alert with
  | none => (acc.1, insert (alertUnmatchedKey alert) acc.2)
  | some i => (acc.1 ++ [{ alert := alert, flow := i }], acc.2)

def matchAlertsToFlows (rt : Runtime) (fs : FlowSet) (alerts : List AlertForEval) :
    List MatchedAlert × Nat :=
  let (found, unmatched) := alerts.foldl (matchAlert rt fs) ([], ∅)
  (found, unmatched.card)

theorem bind_eq_ok {ε α β : Type} {x : Except ε α} {f : α → Except ε β} {b : β} :
    (x >>= f) = .ok b ↔ ∃ a, x = .ok a ∧ f a = .ok b := by
  cases x with
  | error e =>
      constructor
      · intro h
        cases h
      · rintro ⟨a, h, _⟩
        cases h
  | ok a =>
      constructor
      · intro h
        exact ⟨a, rfl, h⟩
      · rintro ⟨a', h, h'⟩
        cases h
        exact h'

theorem eq_ok_of_toOption {ε α : Type} {x : Except ε α} {a : α} (h : x.toOption = some a) :
    x = .ok a := by
  cases x with
  | error e => cases h
  | ok b =>
      cases h
      rfl

/-! ## What a match says -/

variable {rt : Runtime} {fs : FlowSet}

/-- A candidate is taken, or it leaves the best flow as it was. -/
theorem nearer_cases (ts : Int) (best : Option (Nat × Int)) (idx : Nat) :
    nearer fs ts best idx = best ∨ ∃ d, nearer fs ts best idx = some (idx, d) := by
  unfold nearer
  cases fs.flows[idx]? with
  | none => exact .inl rfl
  | some flow =>
      dsimp only
      split
      · exact .inl rfl
      · cases best with
        | none => exact .inr ⟨_, rfl⟩
        | some b =>
            dsimp only
            split
            · exact .inr ⟨_, rfl⟩
            · exact .inl rfl

/-- The best flow is one of the candidates seen. -/
theorem foldl_nearer_mem {ts : Int} (idxs : List Nat) (best : Option (Nat × Int)) {i : Nat}
    {distance : Int} (h : idxs.foldl (nearer fs ts) best = some (i, distance)) :
    i ∈ idxs ∨ ∃ d, best = some (i, d) := by
  induction idxs generalizing best with
  | nil => exact .inr ⟨distance, h⟩
  | cons idx idxs ih =>
      rcases ih (nearer fs ts best idx) h with hmem | ⟨d, hbest⟩
      · exact .inl (List.mem_cons_of_mem _ hmem)
      · rcases nearer_cases ts best idx with hsame | ⟨d', hnew⟩
        · exact .inr ⟨d, hsame ▸ hbest⟩
        · rw [hnew] at hbest
          cases hbest
          exact .inl List.mem_cons_self

/-- A matched flow exists. -/
theorem matchAlertToFlow_lt {alert : AlertForEval} {i : Nat}
    (h : matchAlertToFlow rt fs alert = some i) : i < fs.flows.length := by
  simp only [matchAlertToFlow, Option.bind_eq_bind, Option.bind_eq_some_iff, Option.pure_def,
    Option.some.injEq, Prod.exists] at h
  obtain ⟨_, _, _, _, _, _, _, _, _, _, hbest, rfl⟩ := h
  rcases foldl_nearer_mem _ _ hbest with hmem | ⟨_, hnone⟩
  · exact fs.index_lt _ _ hmem
  · cases hnone

/-- The flows found by a list of alerts, in order. -/
theorem foldl_matchAlert_flows (alerts : List AlertForEval)
    (acc : List MatchedAlert × Finset String) :
    ((alerts.foldl (matchAlert rt fs) acc).1.map MatchedAlert.flow) =
      acc.1.map MatchedAlert.flow ++ alerts.filterMap (matchAlertToFlow rt fs) := by
  induction alerts generalizing acc with
  | nil => simp
  | cons alert alerts ih =>
      rw [List.foldl_cons, ih, matchAlert]
      cases h : matchAlertToFlow rt fs alert with
      | none => rw [List.filterMap_cons_none h]
      | some i => simp [List.filterMap_cons_some h]

theorem matchAlertsToFlows_flows (alerts : List AlertForEval) :
    (matchAlertsToFlows rt fs alerts).1.map MatchedAlert.flow =
      alerts.filterMap (matchAlertToFlow rt fs) := by
  rw [matchAlertsToFlows]
  exact foldl_matchAlert_flows alerts ([], ∅)

end SnortOptimizer.Analyser
