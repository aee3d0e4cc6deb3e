/-!
# The plugin

The fixed names, versions and identifiers of the theme plugin and of the programs around it.
-/

namespace ThemeSetup.Plugin

/-- The name of the plugin. -/
def name : String := "CtTheme"

/-- The version of the plugin. -/
def version : String := "0.1.0"

/-- The maker of the plugin. -/
def manufacturer : String := "Centaur Project"

/-- The oldest version of the host that loads the plugin. -/
def minimalHostVersion : String := "0.1.0"

/-- The identifier of the plugin, which names its directory in the host. -/
def uuid : String := "2df95e88-7eae-5940-ab0d-b53f2df855e2"

/-- The file that the host reads the theme from. -/
def themeFileName : String := "dark.theme.xml"

/-- The file that is packed with the plugin. -/
def packedFileName : String := "dark.theme.json"

/-- The stem of the helper that names the host's root. -/
def hostRootStem : String := "ctpath"

/-- The stem of the program that packs plugins. -/
def packerStem : String := "plpack"

/-- The environment variable that holds the log filter. -/
def logVariable : String := "CTTHEME_LOG"

/-- The version of the tools themselves. -/
def toolsVersion : String := "0.1.0"

end ThemeSetup.Plugin
