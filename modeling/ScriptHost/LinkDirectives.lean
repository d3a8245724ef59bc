/-
What a build is told in order to link the engine.

By default a system library is linked, looked for in one more directory if the
environment names one.  Compiling the engine from its sources needs a checkout of them,
which does not come with the library.
-/
import ScriptHost.Text.Lines

namespace ScriptHost

/-- The settings of the environment that matter; an empty one counts as made. -/
structure BuildEnvironment where
  bundled : Bool
  libraryDir : Option String
  sourceDir : Option String

/-- The version of the engine the library is written against. -/
def engineVersion : String := "0.4.0"

/-- Why the engine's sources cannot be compiled. -/
def missingSources (dir : String) : String :=
  s!"the `bundled` feature needs the Wren {engineVersion} sources, but {dir} has no " ++
    s!"src/include/wren.h. Clone https://github.com/wren-lang/wren at tag {engineVersion} into " ++
    "crates/wren-sys/vendor/wren, " ++
    "point WREN_SRC_DIR at a checkout, or drop `bundled` and link a system libwren (WREN_LIB_DIR)."

/-- The directives given, and why the build stops, if it does: sources to be compiled are
never found where a build looks for them. -/
def linkDirectives (env : BuildEnvironment) : List String × Option String :=
  let watched :=
    ["cargo:rerun-if-env-changed=WREN_LIB_DIR", "cargo:rerun-if-env-changed=WREN_SRC_DIR"]
  if env.bundled then (watched, some (missingSources (env.sourceDir.getD "vendor/wren")))
  else
    let search :=
      env.libraryDir.toList.map fun dir => s!"cargo:rustc-link-search=native={dir}"
    (watched ++ search ++ ["cargo:rustc-link-lib=wren"], none)

/-- The lines printed, and why the build stops, if it does: a directory may have newlines
in its name, and its directive then takes several lines. -/
def buildOutput (env : BuildEnvironment) : List String × Option String :=
  let (directives, failure) := linkDirectives env
  (directives.flatMap printedLines, failure)

end ScriptHost
