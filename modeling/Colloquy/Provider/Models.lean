import Colloquy.Provider.Basic

/-!
# Known models

The models that each backend is known to serve. Any other identifier may be used
as well; the lists give names to the common ones.
-/

namespace Colloquy

/-- A model by a short name and its identifier on the wire. -/
structure KnownModel where
  name : Text
  identifier : Text

/-- The models that are known of a provider. -/
def Provider.knownModels : Provider → List KnownModel
  | .openai =>
    [⟨"GPT_4O", "gpt-4o"⟩, ⟨"GPT_4O_MINI", "gpt-4o-mini"⟩, ⟨"GPT_4_TURBO", "gpt-4-turbo"⟩,
      ⟨"GPT_35_TURBO", "gpt-3.5-turbo"⟩, ⟨"O4_MINI", "o4-mini-2025-04-16"⟩,
      ⟨"O3", "o3-2025-04-16"⟩, ⟨"O3_MINI", "o3-mini-2025-01-31"⟩, ⟨"O1", "o1-2024-12-17"⟩,
      ⟨"O1_MINI", "o1-mini-2024-09-12"⟩, ⟨"O1_PRO", "o1-pro-2025-03-19"⟩]
  | .anthropic =>
    [⟨"SONNET_37", "claude-3-7-sonnet-latest"⟩, ⟨"SONNET_35", "claude-3-5-sonnet-latest"⟩,
      ⟨"HAIKU_35", "claude-3-5-haiku-latest"⟩, ⟨"HAIKU_3", "claude-3-haiku-20240307"⟩,
      ⟨"OPUS_3", "claude-3-opus-latest"⟩]
  | .gemini =>
    [⟨"FLASH_15", "gemini-1.5-flash"⟩, ⟨"FLASH_20", "gemini-2.0-flash"⟩,
      ⟨"FLASH_20_LITE", "gemini-2.0-flash-lite"⟩,
      ⟨"FLASH_25_PREVIEW", "gemini-2.5-flash-preview-04-17"⟩]
  | .mistral =>
    [⟨"LARGE", "mistral-large-latest"⟩, ⟨"SMALL", "mistral-small-latest"⟩,
      ⟨"NEMO", "open-mistral-nemo"⟩, ⟨"CODESTRAL", "codestral-latest"⟩]
  | .ollama =>
    [⟨"LLAMA3_8B", "llama3:8b"⟩, ⟨"LLAMA3_70B", "llama3:70b"⟩, ⟨"MISTRAL_7B", "mistral:7b"⟩,
      ⟨"QWEN3_8B", "qwen3:8b"⟩]
  | .mock => []

/-- The name under which the list of models of a provider is known, for those that have one. -/
def Provider.modelListName? : Provider → Option Text
  | .openai => some "OpenAIModel"
  | .anthropic => some "AnthropicModel"
  | .gemini => some "GeminiModel"
  | .mistral => some "MistralModel"
  | .ollama => some "OllamaModel"
  | .mock => none

/-- The models of the list of a name. -/
def KnownModel.listOf? (name : Text) : Option (List KnownModel) :=
  (Provider.all.find? fun p => p.modelListName? = some name).map Provider.knownModels

end Colloquy
