import RefCheck.Lib.Dict
import RefCheck.Model.Env

/-!
# Model resolution

`MODEL_TIERS` and `get_model` of `config.py`. Every provider of the table has a model for both tiers,
whatever the environment overrides (`exists_getModel`).
-/

namespace RefCheck

/-- `str.upper`, of ASCII letters: the names of providers and tiers have no others. -/
def upper (s : String) : String := String.ofList (s.toList.map Char.toUpper)

/-- `MODEL_TIERS`. -/
def modelTiers : Dict String (Dict String String) :=
  .ofPairs [
    ("anthropic", .ofPairs [("extraction", "claude-haiku-4-5"), ("reasoning", "claude-sonnet-4-6")]),
    ("bedrock", .ofPairs [("extraction", "amazon.nova-micro-v1:0"),
      ("reasoning", "amazon.nova-micro-v1:0")]),
    ("openrouter", .ofPairs [("extraction", "anthropic/claude-haiku-4.5"),
      ("reasoning", "anthropic/claude-sonnet-4.6")])]

def ModelTier.name : ModelTier → String
  | extraction => "extraction"
  | reasoning => "reasoning"

/-- The environment variable that overrides an entry. -/
def modelKey (provider tier : String) : String :=
  "MODEL_" ++ upper provider ++ "_" ++ upper tier

/-- `get_model`. -/
def getModel (py : PyText) (environ : Dict String String) (provider tier : String) :
    Except PyException String :=
  match environ.get? (modelKey provider tier) with
  | some model => .ok model
  | none =>
    match (modelTiers.get? provider).bind (·.get? tier) with
    | some model => .ok model
    | none => .error (.valueError ("No model configured for provider=" ++ py.reprStr provider ++
        " tier=" ++ py.reprStr tier ++ ". Known providers: " ++ py.reprList modelTiers.keys ++
        ". Set env var " ++ modelKey provider tier ++ " or add an entry to config.MODEL_TIERS."))

variable {py : PyText} {environ : Dict String String} {provider : String}

theorem getModel_eq_ok_iff {tier model : String} : getModel py environ provider tier = .ok model ↔
    environ.get? (modelKey provider tier) = some model ∨
      environ.get? (modelKey provider tier) = none ∧
        (modelTiers.get? provider).bind (·.get? tier) = some model := by
  unfold getModel
  cases environ.get? (modelKey provider tier) with
  | some own => simp
  | none => cases (modelTiers.get? provider).bind (·.get? tier) <;> simp

theorem exists_getModel (hprovider : provider ∈ modelTiers.keys) (tier : ModelTier) :
    ∃ model, getModel py environ provider tier.name = .ok model := by
  have hentries : ∀ p ∈ modelTiers.keys, ∀ tier ∈ [ModelTier.extraction, .reasoning],
      ((modelTiers.get? p).bind (·.get? tier.name)).isSome := by decide +kernel
  obtain ⟨model, hmodel⟩ := Option.isSome_iff_exists.mp
    (hentries provider hprovider tier (by cases tier <;> decide))
  cases hoverride : environ.get? (modelKey provider tier.name) with
  | some own => exact ⟨own, getModel_eq_ok_iff.mpr (.inl hoverride)⟩
  | none => exact ⟨model, getModel_eq_ok_iff.mpr (.inr ⟨hoverride, hmodel⟩)⟩

end RefCheck
