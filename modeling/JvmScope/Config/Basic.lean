import JvmScope.Classpath.Provider

/-!
# Settings

What a project sets: its classpath, the JDK it is compiled against, and what is logged. Jars
come before class directories whatever the order in which they were written, and the JDK before
or after all of them. An unset JDK is the catalog of platform types that is built in.
-/

namespace JvmScope

structure ClasspathSettings where
  jars : List String
  /-- Directories of compiled classes. -/
  classDirs : List String
  jdkPosition : JdkPosition
  deriving DecidableEq, Repr

namespace ClasspathSettings

def standard : ClasspathSettings := ⟨[], [], .last⟩

/-- The entries of the classpath in the order in which they are searched. -/
def entries (s : ClasspathSettings) : List ClasspathEntry :=
  s.jars.map .jar ++ s.classDirs.map .directory

/-- The settings with paths taken as seen from `base`. -/
def rebase (s : ClasspathSettings) (base : String) : ClasspathSettings :=
  { s with
    jars := s.jars.map (FilePath.join base)
    classDirs := s.classDirs.map (FilePath.join base) }

end ClasspathSettings

structure LogSettings where
  /-- A level or the text of a filter. -/
  level : String
  /-- Whether messages are written as JSON. -/
  json : Bool
  deriving DecidableEq, Repr

namespace LogSettings

def standard : LogSettings := ⟨"info", false⟩

end LogSettings

structure Config where
  classpath : ClasspathSettings
  /-- The JDK to be used. -/
  jdkHome : Option String
  logging : LogSettings
  deriving DecidableEq, Repr

namespace Config

/-- What holds where nothing is set. -/
def standard : Config := ⟨.standard, none, .standard⟩

/-- The JDK that is set, wherever the environment may point. -/
def jdk (c : Config) : JdkSpec :=
  match c.jdkHome with
  | some home => .discovered ⟨none, none⟩ (some home)
  | none => .catalog

/-- Opens the classpath around a JDK. -/
def openWith (tree : FileTree) (jdk : Jdk) (c : Config) : Except ClasspathError (List Provider) :=
  Classpath.openParts tree c.classpath.entries jdk c.classpath.jdkPosition

/-- Opens the JDK and then the classpath. -/
def openIn (tree : FileTree) (c : Config) : Except ClasspathError (List Provider) := do
  let jdk ← c.jdk.openIn tree
  c.openWith tree jdk

end Config

end JvmScope
