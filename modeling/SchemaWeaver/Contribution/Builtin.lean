import SchemaWeaver.Contribution.Family

/-!
# The built-in backends

The shapes and families of the two backends that visitors are shipped for.
-/

namespace SchemaWeaver

namespace Shape

/-- A shape right below the root. -/
private def basic (name : String) (lists : List String) (writers : List (String × String)) :
    Shape :=
  root.extend ⟨name, lists, writers⟩

/-- Contributions to Rust type definitions. -/
def rustType : Shape :=
  basic "RustTypeContribution" ["attributes", "derives", "doc_comments", "additional_code"]
    [("add_attribute", "attributes"), ("add_derive", "derives"),
      ("add_doc_comment", "doc_comments"), ("add_code", "additional_code")]

/-- Contributions to Rust record fields. -/
def rustField : Shape :=
  basic "RustFieldContribution" ["attributes", "doc_comments"]
    [("add_attribute", "attributes"), ("add_doc_comment", "doc_comments")]

/-- Contributions to Rust variant and enum cases. -/
def rustCase : Shape :=
  basic "RustVariantCaseContribution" ["attributes", "doc_comments"]
    [("add_attribute", "attributes"), ("add_doc_comment", "doc_comments")]

/-- Contributions to Rust functions. -/
def rustFunction : Shape :=
  basic "RustFunctionContribution" ["attributes", "doc_comments", "body_prefix", "body_suffix"]
    [("add_attribute", "attributes"), ("add_doc_comment", "doc_comments"),
      ("add_body_prefix", "body_prefix"), ("add_body_suffix", "body_suffix"),
      ("prepend_body", "body_prefix"), ("append_body", "body_suffix")]

/-- Contributions to Rust modules. -/
def rustModule : Shape :=
  basic "RustModuleContribution" ["use_statements", "additional_code"]
    [("add_use", "use_statements"), ("add_code", "additional_code")]

/-- Contributions to Python classes. -/
def pythonType : Shape :=
  basic "PyTypeContribution" ["decorators", "bases", "docstring_lines", "additional_code"]
    [("add_decorator", "decorators"), ("add_base", "bases"),
      ("add_docstring_line", "docstring_lines"), ("add_code", "additional_code")]

/-- Contributions to Python class attributes. -/
def pythonField : Shape :=
  basic "PyFieldContribution" ["comments", "metadata"]
    [("add_comment", "comments"), ("add_metadata", "metadata")]

/-- Contributions to Python cases. -/
def pythonCase : Shape :=
  basic "PyCaseContribution" ["comments"] [("add_comment", "comments")]

/-- Contributions to Python functions. -/
def pythonFunction : Shape :=
  basic "PyFunctionContribution"
    ["decorators", "docstring_lines", "body_prologue", "body_epilogue"]
    [("add_decorator", "decorators"), ("add_docstring_line", "docstring_lines"),
      ("add_prologue", "body_prologue"), ("add_epilogue", "body_epilogue")]

/-- Contributions to Python modules. -/
def pythonModule : Shape :=
  basic "PyModuleContribution" ["imports", "additional_code"]
    [("add_import", "imports"), ("add_code", "additional_code")]

/-- The shapes of the built-in backends. -/
def builtin : List Shape :=
  [rustType, rustField, rustCase, rustFunction, rustModule, pythonType, pythonField, pythonCase,
    pythonFunction, pythonModule]

end Shape

namespace Backend

/-- The backend that generates Rust. -/
def rust : Backend :=
  ⟨"rust", .rustType, .rustField, .rustCase, .rustFunction, .rustModule⟩

/-- The backend that generates Python. -/
def python : Backend :=
  ⟨"python", .pythonType, .pythonField, .pythonCase, .pythonFunction, .pythonModule⟩

/-- The built-in backends. -/
def all : List Backend := [rust, python]

/-- The backend with a given name. -/
def find? (name : String) : Option Backend := all.find? fun backend => backend.name == name

end Backend

end SchemaWeaver
