import AvsRegistry.Types

/-!
# The client builder's configuration check

`BuildAll` (`chainio/clients/builder.go`) validates its configuration before it builds any
client. `validate` checks four fields in turn, each against the empty string and each with
its own `Fatalf` message. With the production logger the first empty field ends the
process under that field's message; with a logger whose `Fatalf` returns, every check falls
through and the clients are built from the configuration as it is.
-/

namespace AvsRegistry

/-- `BuildAllConfig`, lines 18–23. -/
structure BuildAllConfig where
  ethHttpUrl : String
  registryCoordinatorAddr : String
  operatorStateRetrieverAddr : String
  avsName : String
deriving DecidableEq, Repr

namespace BuildAllConfig

/-- One check of `validate`: `if field == "" { logger.Fatalf(msg) }`, then the checks after
it. -/
def requireNonEmpty (logger : Logger) (field msg : String) (next : Outcome Unit) :
    Outcome Unit :=
  if field = "" then logger.fatal msg next else next

/-- The fields `validate` checks, in the order of lines 196–207, each with its message. -/
def checks (config : BuildAllConfig) : List (String × String) :=
  [(config.ethHttpUrl, "BuildAllConfig.validate: Missing eth http url"),
    (config.registryCoordinatorAddr,
      "BuildAllConfig.validate: Missing bls registry coordinator address"),
    (config.operatorStateRetrieverAddr,
      "BuildAllConfig.validate: Missing bls operator state retriever address"),
    (config.avsName, "BuildAllConfig.validate: Missing avs name")]

/-- `validate`, lines 195–208: the four checks one after another. -/
def validate (logger : Logger) (config : BuildAllConfig) : Outcome Unit :=
  config.checks.foldr (fun check next => requireNonEmpty logger check.1 check.2 next) (.ret (.ok ()))

/-- Under the production logger a run of checks exits at the first empty field, with its
message, and returns when no field is empty. -/
theorem foldr_requireNonEmpty_of_fatalExits (checks : List (String × String)) :
    checks.foldr (fun check next => requireNonEmpty ⟨true⟩ check.1 check.2 next) (.ret (.ok ())) =
      match checks.find? (·.1 = "") with
      | some check => .exit check.2
      | none => .ret (.ok ()) := by
  induction checks with
  | nil => rfl
  | cons check checks ih =>
    rw [List.foldr_cons, List.find?_cons, ih]
    by_cases hempty : check.1 = ""
    · simp only [requireNonEmpty, Logger.fatal, hempty, if_true, decide_True]
    · simp only [requireNonEmpty, hempty, if_false, decide_False]

/-- Under a logger whose `Fatalf` returns, a run of checks always falls through. -/
theorem foldr_requireNonEmpty_of_returns (checks : List (String × String)) :
    checks.foldr (fun check next => requireNonEmpty ⟨false⟩ check.1 check.2 next) (.ret (.ok ())) =
      .ret (.ok ()) := by
  induction checks with
  | nil => rfl
  | cons check checks ih =>
    rw [List.foldr_cons, ih, requireNonEmpty, Logger.fatal]
    exact ite_self _

/-- Under the production logger `validate` ends the process exactly when a field is empty,
under the message of the first empty field in the order of the source; under a logger whose
`Fatalf` returns, it always returns. -/
theorem validate_exits_at_first_empty_field (config : BuildAllConfig) :
    validate ⟨true⟩ config =
        (match config.checks.find? (·.1 = "") with
          | some check => .exit check.2
          | none => .ret (.ok ())) ∧
      validate ⟨false⟩ config = .ret (.ok ()) :=
  ⟨foldr_requireNonEmpty_of_fatalExits config.checks,
    foldr_requireNonEmpty_of_returns config.checks⟩

example : validate ⟨true⟩ ⟨"http://localhost:8545", "", "", "avs"⟩ =
    .exit "BuildAllConfig.validate: Missing bls registry coordinator address" := rfl

end BuildAllConfig

end AvsRegistry
