import DriverGuide.Basic
import DriverGuide.SimpleChar
import DriverGuide.ThreadedIrq
import DriverGuide.Ioctl
import DriverGuide.Ramdisk
import DriverGuide.SpiFlash
import DriverGuide.Vnet
import DriverGuide.KmemCache
import DriverGuide.Watchdog
import DriverGuide.DmaDemo
import DriverGuide.PmDemo
import DriverGuide.Pwm
import DriverGuide.Gpio
import DriverGuide.UserWrites
import DriverGuide.Rtc
import DriverGuide.Sensors
import DriverGuide.Spinlock
import DriverGuide.DataStructures
import DriverGuide.Attributes
import DriverGuide.Periodic
import DriverGuide.TimerDemo
import DriverGuide.WorkqueueDemo
import DriverGuide.KthreadDemo
