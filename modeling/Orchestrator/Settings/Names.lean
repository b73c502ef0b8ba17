/-!
# Names with a meaning in the settings

The section and setting names that more than one part of the library reads.
-/

namespace Orchestrator
namespace Names

/-- The name of a settings file that is searched for. -/
def settingsFile : String := ".exec-helper"

/-- The name of the root of a settings tree. -/
def root : String := "exec-helper"

/-- The section that lists the commands a user may run. -/
def commands : String := "commands"

/-- The section with inline pattern definitions, and the setting that selects patterns. -/
def patterns : String := "patterns"

/-- The values of an inline pattern. -/
def defaultValues : String := "default-values"

/-- The one-character option of an inline pattern. -/
def shortOption : String := "short-option"

/-- The long option of an inline pattern. -/
def longOption : String := "long-option"

/-- The pattern that holds the directory the program was started from. -/
def workingDirPattern : String := "EH_WORKING_DIR"

/-- The pattern that holds the directory of the settings file. -/
def rootDirPattern : String := "EH_ROOT_DIR"

/-- The switch for the verbose flag of a tool. -/
def verbose : String := "verbose"

/-- The number of jobs of a tool that builds in parallel. -/
def jobs : String := "jobs"

/-- The directory in which a tool builds. -/
def buildDir : String := "build-dir"

/-- Arguments that a tool gets as they are. -/
def commandLine : String := "command-line"

/-- Environment variables of the tasks of a plugin. -/
def environment : String := "environment"

/-- The working directory of the tasks of a plugin. -/
def workingDir : String := "working-dir"

/-- The commands that a wrapping tool runs. -/
def runCommand : String := "run-command"

/-- The environment variable that repeats the working directory of a task. -/
def pwd : String := "PWD"

end Names
end Orchestrator
