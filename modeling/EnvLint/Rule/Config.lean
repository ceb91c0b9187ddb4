import EnvLint.Rule.Setting

/-! # Configurations

    Which rules are enabled and how, in order.  Rules that are off are absent. -/

namespace EnvLint

/-- The enabled rules by name. -/
structure Config where
  /-- Settings in order. -/
  rules : List (String × Setting)
deriving DecidableEq, Repr

namespace Config

/-- The setting of a rule. -/
def get? (c : Config) (ruleId : String) : Option Setting :=
  (c.rules.find? fun r => r.1 == ruleId).map Prod.snd

/-- Sets a rule: a known one keeps its place, a new one goes to the end. -/
def insert (rules : List (String × Setting)) (ruleId : String) (s : Setting) :
    List (String × Setting) :=
  match rules with
  | [] => [(ruleId, s)]
  | r :: rest => if r.1 == ruleId then (ruleId, s) :: rest else r :: insert rest ruleId s

/-- Disables a rule. -/
def erase (rules : List (String × Setting)) (ruleId : String) : List (String × Setting) :=
  rules.filter fun r => r.1 != ruleId

/-- Makes a configuration from parts, if every rule has a name and a setting. -/
def make : List (String × Given Setting) → Except Failure Config
  | [] => .ok ⟨[]⟩
  | (ruleId, s) :: rest =>
      if ruleId = "" then .error (.misuse .noConfiguredRule)
      else
        match s with
        | .other _ => .error (.misuse (.notSetting ruleId))
        | .good s => do
            let c ← make rest
            .ok ⟨(ruleId, s) :: c.rules⟩

/-- Sets or disables one rule. -/
def withRule (c : Config) (ruleId : String) (s : Option (Given Setting)) :
    Except Failure Config :=
  match s with
  | none => .ok ⟨erase c.rules ruleId⟩
  | some s =>
      if ruleId = "" then .error (.misuse .noConfiguredRule)
      else
        match s with
        | .other _ => .error (.misuse (.notSetting ruleId))
        | .good s => .ok ⟨insert c.rules ruleId s⟩

/-- Reads the rules of a configuration, dropping those that are off. -/
def readRules [Host] : List (String × Json) → Except Failure (List (String × Setting))
  | [] => .ok []
  | (ruleId, raw) :: rest =>
      if ruleId = "" then .error (.config .emptyRuleId)
      else do
        let s ← Setting.read ruleId raw
        let rules ← readRules rest
        .ok (match s with
          | some s => (ruleId, s) :: rules
          | none => rules)

/-- Keys of a configuration that mean nothing, in order. -/
def unknownKeys (fields : List (String × Json)) : List String :=
  ((fields.map Prod.fst).filter (· != "rules")).mergeSort

/-- Reads a configuration. -/
def ofJson [Host] (v : Json) : Except Failure Config :=
  match v with
  | .obj fields =>
      if !(unknownKeys fields).isEmpty then
        .error (.config (.unknownKeys (unknownKeys fields)))
      else
        match Json.lookup "rules" fields with
        | none => .ok ⟨[]⟩
        | some (.obj rules) => (readRules rules).map (⟨·⟩)
        | some _ => .error (.config .rulesNotObject)
  | _ => .error (.config .notObject)

end Config

end EnvLint
