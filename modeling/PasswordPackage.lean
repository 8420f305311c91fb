import PasswordPackage.Common.Run
import PasswordPackage.Common.FirstOccurrence
import PasswordPackage.Lock.GesturesUnlockView
import PasswordPackage.Lock.GesturesUnlock
import PasswordPackage.App.AppDelegate
import PasswordPackage.App.LockSafety
import PasswordPackage.Generator.CreatePassword
import PasswordPackage.Common.KeyedTable
import PasswordPackage.Data.FMDB
import PasswordPackage.Data.DataManager
import PasswordPackage.Data.Refinement
import PasswordPackage.Common.FileSystem
import PasswordPackage.Data.Restore
import PasswordPackage.Pasteboard.ClearPasteboard
import PasswordPackage.Pasteboard.CopyActions
import PasswordPackage.BankCard.InputCart
import PasswordPackage.BankCard.Lookup
import PasswordPackage.App.Sessions
import PasswordPackage.App.MainViewController
import PasswordPackage.BankCard.RoundTrip
import PasswordPackage.Common.LastWrite
import PasswordPackage.Data.UpdateById
import PasswordPackage.Generator.Fairness
import PasswordPackage.Lock.CreateGesture
import PasswordPackage.Settings.SaveConfig
import PasswordPackage.Settings.SettingViewController
import PasswordPackage.Generator.LengthControls
import PasswordPackage.BankCard.Regroup
import PasswordPackage.Settings.ExportWithEmail
import PasswordPackage.Site.Suggestions
import PasswordPackage.Site.Directory
import PasswordPackage.Pasteboard.PreciseClearing
import PasswordPackage.Settings.RadioList
import PasswordPackage.Settings.SelectIcon
import PasswordPackage.Lock.ErrorCount
import PasswordPackage.Settings.TimeDescription
import PasswordPackage.BankCard.GroupedString
import PasswordPackage.BankCard.XorString
import PasswordPackage.Data.CacheTransparency
import PasswordPackage.Settings.CloudLoss
import PasswordPackage.Settings.CloudProvenance
import PasswordPackage.App.EmptyMessageView
import PasswordPackage.BankCard.BankCardViewController
import PasswordPackage.App.CSYGroupButtonView
import PasswordPackage.Lock.GesturesUnlockIndicator
import PasswordPackage.Settings.LEETheme
import PasswordPackage.Settings.SelectTheme
import PasswordPackage.App.DetailScreens
import PasswordPackage.App.HWPopController
import PasswordPackage.Site.IndexLayout
import PasswordPackage.Site.SCIndexView
import PasswordPackage.Common.Draws
import PasswordPackage.Generator.Strength
import PasswordPackage.Lock.GesturesPassword
